import TrainingLab.Dialect.Basic
import TrainingLab.Dialect.FortiOs.Command

/-
  The command table of FortiOS.
-/

namespace TrainingLab.FortiOs

open Grammar

/-- A rule that prints fixed lines. -/
def prints (pattern : String) (lines : List String) : Rule (Request Command) :=
  Rule.on [] pattern fun _ => .command (.print lines)

/-- A rule for a scope of the open sections and objects. -/
def inside (scope : Scope) (pattern : String) (meaning : Captures → Request Command) :
    Rule (Request Command) :=
  (Rule.on [] pattern meaning).within scope

/-- The rules in order. -/
def table : List (Rule (Request Command)) := [
  -- sections
  inside .top "config system interface" fun _ => .command (.openSection interfaces),
  inside .top "config firewall policy" fun _ => .command (.openSection policies),
  inside .top "config router static" fun _ => .command (.openSection staticRoutes),
  inside .top "config router ospf" fun _ => .command (.openSection ospf),
  prints "config <args...>" [parseError] |>.within .top,
  Rule.on [] "next" fun _ => .command .next,
  Rule.on [] "end" fun _ => .command .leave,
  Rule.on [] "abort" fun _ => .command .leave,
  inside (.inSection interfaces) "edit <name>" fun c => .command (.openInterface (c.text "name")),
  inside (.inSection interfaces) "delete <name>"
      fun c => .command (.deleteInterface (c.text "name")),
  inside (.inSection policies) "edit <id>" fun c => .command (.openPolicy (c.text "id")),
  inside (.inSection policies) "delete <id>" fun c => .command (.deletePolicy (c.text "id")),
  inside (.inSection staticRoutes) "edit <seq>" fun c => .command (.openRoute (c.text "seq")),
  inside (.inSection staticRoutes) "delete <seq>" fun c => .command (.deleteRoute (c.text "seq")),
  inside (.inSection ospf) "set <args...>" fun _ => .command .accept,
  inside (.inSection interfaces) "show" fun _ => .command .showOpen,
  inside (.inSection policies) "show" fun _ => .command .showOpen,
  inside (.inSection staticRoutes) "show" fun _ => .command .showOpen,
  inside (.inSection ospf) "show" fun _ => .command .showOpen,
  -- interface objects
  inside (.inObject interfaces) "set ip <ip> <mask>"
      fun c => .command (.setAddress (c.text "ip") (c.text "mask")),
  inside (.inObject interfaces) "set ip <cidr>" fun c => .command (.setCidr (c.text "cidr")),
  inside (.inObject interfaces) "set status <status>"
      fun c => .command (.setStatus (c.text "status")),
  inside (.inObject interfaces) "set alias <text...>"
      fun c => .command (.setAlias (some (c.text "text"))),
  inside (.inObject interfaces) "set zone <zone>"
      fun c => .command (.setZone (some (c.text "zone"))),
  inside (.inObject interfaces) "unset alias" fun _ => .command (.setAlias none),
  inside (.inObject interfaces) "unset zone" fun _ => .command (.setZone none),
  inside (.inObject interfaces) "unset ip" fun _ => .command .clearAddress,
  inside (.inObject interfaces) "set <field> [args...]" fun _ => .command .accept,
  -- policy objects
  inside (.inObject policies) "set name <text...>" fun c => .command (.setName (c.text "text")),
  inside (.inObject policies) "set srcintf <zone>"
      fun c => .command (.setFromZone (c.text "zone")),
  inside (.inObject policies) "set dstintf <zone>" fun c => .command (.setToZone (c.text "zone")),
  inside (.inObject policies) "set srcaddr <addr>" fun c => .command (.setSource (c.text "addr")),
  inside (.inObject policies) "set dstaddr <addr>"
      fun c => .command (.setDestinationAddress (c.text "addr")),
  inside (.inObject policies) "set action <action>"
      fun c => .command (.setAction (c.text "action")),
  inside (.inObject policies) "set service <service...>"
      fun c => .command (.setService (c.text "service")),
  inside (.inObject policies) "set <field> [args...]" fun _ => .command .accept,
  -- static route objects
  inside (.inObject staticRoutes) "set dst <ip> <mask>"
      fun c => .command (.setDestination (c.text "ip") (c.text "mask")),
  inside (.inObject staticRoutes) "set dst <cidr>"
      fun c => .command (.setDestinationPrefix (c.text "cidr")),
  inside (.inObject staticRoutes) "set gateway <gateway>"
      fun c => .command (.setGateway (c.text "gateway")),
  inside (.inObject staticRoutes) "set device <name>"
      fun c => .command (.setDevice (c.text "name")),
  inside (.inObject interfaces) "show" fun _ => .command .showOpen,
  inside (.inObject policies) "show" fun _ => .command .showOpen,
  inside (.inObject staticRoutes) "show" fun _ => .command .showOpen,
  -- execute
  Rule.on [] "execute ping <target>" fun c => .command (.ping (c.text "target")),
  prints "execute ping-options [args...]" ["Ping options: repeat count=5, data size=56"],
  prints "execute ssh [args...]" ["SSH connection failed."],
  prints "execute telnet [args...]" ["Telnet connection failed."],
  prints "execute reboot" ["Rebooting system..."],
  prints "execute factoryreset"
      ["This operation will reset the system to factory default! Do you want to continue? (y/n)"],
  prints "execute backup [args...]" ["Starting backup..."],
  prints "execute [args...]" [parseError],
  -- diagnose
  prints "diagnose sys session list"
      ["session info: proto=6 proto_state=01 duration=120 state=may_dirty"],
  prints "diagnose sys top [args...]"
      ["Run Time:  1 days,  4 hours and 15 minutes", "0U, 0N, 0S, 100I; 2038T, 514F"],
  prints "diagnose hardware deviceinfo nic [args...]"
      ["Driver Name: virtio_net", "MAC Address: 00:09:0f:09:00:01", "Link: up", "Speed: 10000"],
  prints "diagnose debug enable" ["Debug output enabled."],
  prints "diagnose debug flow trace [args...]" ["Trace start."],
  prints "diagnose [args...]" [diagnoseError],
  -- get
  prints "get system status"
      ["Version: FortiGate-VM64 v7.2.0",
       "Firmware Signature: signed",
       "Admin domain config: disable"],
  prints "get system performance status"
      ["CPU states: 0% user 0% system 100% idle", "Memory: 2097152k total, 514216k used"],
  Rule.on [] "get system interface [physical]" fun _ => .command .getInterfaces,
  Rule.on [] "get system arp" fun _ => .command .getArp,
  Rule.on [] "get router info routing-table [args...]" fun _ => .command .getRoutes,
  prints "get router info ospf neighbor"
      ["Neighbor ID     Pri   State           Dead Time   Address         Interface",
       "1.1.1.1         1     Full/DR         00:00:39    10.0.0.1        port1"],
  prints "get router info bgp summary"
      ["BGP router identifier 2.2.2.2, local AS number 65001",
       "Neighbor        V    AS MsgRcvd MsgSent   TblVer  InQ OutQ Up/Down  State/PfxRcd",
       "10.0.0.1        4 65000      50      50        1    0    0 02:22:22        1"],
  prints "get router info kernel"
      [("tab=254 vf=0 scope=0 type=1 proto=11 prio=0 0.0.0.0/0.0.0.0/0->0.0.0.0/0 " ++
         "pref=0.0.0.0 gwy=0.0.0.0 dev=3(port1)")],
  prints "get hardware status"
      ["Model name: FortiGate-VM64", "ASIC version: 0000", "CPU: Intel(R) Xeon(R) CPU"],
  prints "get hardware cpu"
      ["processor       : 0", "vendor_id       : GenuineIntel", "cpu family      : 6"],
  prints "get hardware memory" ["MemTotal:        2052444 kB", "MemFree:         1398864 kB"],
  prints "get [args...]" [getError],
  -- show
  inside .top "show" fun _ => .command .showInterfaces,
  Rule.on [] "show system interface" fun _ => .command .showInterfaces,
  Rule.on [] "show firewall policy" fun _ => .command .showPolicies,
  Rule.on [] "show router static" fun _ => .command .showRoutes,
  prints "show system dns"
      ["config system dns", "    set primary 8.8.8.8", "    set secondary 8.8.4.4", "end"],
  prints "show vpn ipsec [args...]" ["IPsec VPN tunnels:", "No tunnels configured."],
  prints "show full-configuration [args...]"
      ["config system global", "    set admin-sport 443", "end", "..."],
  prints "show <args...>" [parseError]]

/-- The dialect of FortiOS. -/
def dialect : Dialect Command where
  modes := [.user]
  table := table
  run := Command.run
  unknown _ := parseError
  incomplete := parseError

end TrainingLab.FortiOs
