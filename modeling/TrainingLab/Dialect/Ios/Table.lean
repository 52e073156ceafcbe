import TrainingLab.Dialect.Basic
import TrainingLab.Dialect.Ios.Command

/-
  The command table of IOS.
-/

namespace TrainingLab.Ios

open Grammar

/-- The modes without configuration. -/
def execModes : List Mode := [.user, .privileged]

/-- The configuration mode and the modes below it. -/
def configModes : List Mode := [.config, .configInterface, .configRouter, .configVlan]

/-- A rule that prints fixed lines. -/
def prints (modes : List Mode) (pattern : String) (lines : List String) : Rule (Request Command) :=
  Rule.on modes pattern fun _ => .command (.print lines)

/-- The rules in order. -/
def table : List (Rule (Request Command)) := [
  -- navigation
  Rule.on [] "exit" fun _ => .command .exit,
  Rule.on configModes "end" fun _ => .command .leave,
  Rule.on execModes "enable" fun _ => .command .enable,
  Rule.on [.privileged] "disable" fun _ => .command .disable,
  Rule.on [.privileged] "configure [terminal]" fun _ => .command .configure,
  Rule.on configModes "do <command...>" fun c => .carried (c.text "command"),
  -- operational commands
  Rule.on execModes "ping [target...]" fun c => .command (.ping (c.find? "target")),
  Rule.on execModes "traceroute [target...]" fun c => .command (.traceroute (c.find? "target")),
  prints execModes "show version"
      ["Cisco IOS Software, ISR Software (X86_64_LINUX_IOSD-UNIVERSALK9-M), Version 17.3.4a",
       "Uptime is 4 weeks, 2 days, 3 hours"],
  prints execModes "show clock" ["14:45:10.123 UTC Mon May 22 2024"],
  Rule.on execModes "show history" fun _ => .command .showHistory,
  prints execModes "show users"
      ["    Line       User       Host(s)              Idle       Location",
       "*  0 con 0                idle                 00:00:00"],
  prints execModes "show sessions" ["No active connections."],
  prints execModes "show ssh" ["% SSH not enabled"],
  prints execModes "show inventory"
      ["NAME: \"Chassis\", DESCR: \"Cisco ISR4331 Chassis\"",
       "PID: ISR4331/K9        , VID: V01 , SN: FDO2134251"],
  prints execModes "show flash"
      ["Directory of flash:/",
       "    1  -rw-    500000000   May 1 2024  isr4300-universalk9.17.03.04a.SPA.bin"],
  prints execModes "show file systems"
      ["Size(b)       Free(b)      Type  Flags  Prefixes",
       "* 4096000000    3500000000   disk  rw     flash:"],
  -- privileged commands
  prints [.privileged] "reload" ["Proceed with reload? [confirm]"],
  prints [.privileged] "write [memory]" ["Building configuration...", "[OK]"],
  prints [.privileged] "copy running-config startup-config"
      ["Destination filename [startup-config]?", "Building configuration...", "[OK]"],
  Rule.on [.privileged] "delete <target>" fun c => .command (.delete (c.text "target")),
  prints [.privileged] "clear counters"
      ["Clear \"show interface\" counters on all interfaces [confirm]", "Counters cleared."],
  prints [.privileged] "clear arp-cache" ["ARP cache cleared."],
  prints [.privileged] "clear logging" ["Logging buffer cleared."],
  prints [.privileged] "clear ip nat translation [args...]"
      ["Dynamic translation slots cleared."],
  prints [.privileged] "debug ip packet" ["IP packet debugging is on"],
  prints [.privileged] "debug all"
      ["This may severely impact network performance. Continue? (yes/[no]): yes",
       "All possible debugging has been turned on"],
  prints [.privileged] "undebug all" ["All possible debugging has been turned off"],
  prints [.privileged] "no debug all" ["All possible debugging has been turned off"],
  -- inspection
  Rule.on [.privileged] "show ip interface brief" fun _ => .command .showInterfaceBrief,
  Rule.on [.privileged] "show running-config" fun _ => .command .showRunningConfig,
  Rule.on [.privileged] "show startup-config" fun _ => .command .showStartupConfig,
  Rule.on [.privileged] "show interfaces [<name>]"
      fun c => .command (.showInterfaces (c.find? "name")),
  Rule.on [.privileged] "show ip route" fun _ => .command .showRoutes,
  Rule.on [.privileged] "show arp" fun _ => .command .showArp,
  Rule.on [.privileged] "show cdp neighbors [detail]"
      fun c => .command (.showNeighbors (c.find? "detail").isSome),
  Rule.on [.privileged] "show lldp neighbors [detail]"
      fun c => .command (.showNeighbors (c.find? "detail").isSome),
  Rule.on [.privileged] "show vlan [brief]" fun _ => .command .showVlans,
  prints [.privileged] "show mac address-table"
      ["          Mac Address Table",
       "-------------------------------------------",
       "Vlan    Mac Address       Type        Ports",
       "----    -----------       --------    -----",
       "10      0050.56b0.1122    DYNAMIC     Gi0/2"],
  prints [.privileged] "show spanning-tree"
      ["VLAN0010",
       "  Spanning tree enabled protocol rstp",
       "  Root ID    Priority    32778",
       "             Address     0016.9d82.1234",
       "             This bridge is the root"],
  prints [.privileged] "show etherchannel summary"
      ["Flags:  D - down        P - bundled in port-channel",
       "Number of channel-groups in use: 0",
       "Group  Port-channel  Protocol    Ports",
       "------+-------------+-----------+-----------------------------------------------"],
  prints [.privileged] "show ip protocols"
      ["Routing Protocol is \"ospf 1\"",
       "  Router ID 1.1.1.1",
       "  Number of areas in this router is 1. 1 normal 0 stub 0 nssa"],
  prints [.privileged] "show ip ospf neighbor"
      ["Neighbor ID     Pri   State           Dead Time   Address         Interface",
       "2.2.2.2           1   FULL/BDR        00:00:33    10.0.0.2        Gi0/0"],
  prints [.privileged] "show ip ospf interface"
      ["Gi0/0 is up, line protocol is up ",
       "  Internet Address 10.0.0.1/30, Area 0, Process ID 1"],
  prints [.privileged] "show bgp summary"
      ["BGP router identifier 1.1.1.1, local AS number 65000",
       "Neighbor        V    AS MsgRcvd MsgSent   TblVer  InQ OutQ Up/Down  State/PfxRcd",
       "10.0.0.2        4 65001      12      12        3    0    0 00:11:12        1"],
  prints [.privileged] "show bgp all"
      ["For address family: IPv4 Unicast",
       "BGP table version is 3, local router ID is 1.1.1.1",
       "     Network          Next Hop            Metric LocPrf Weight Path",
       " *>  0.0.0.0          10.0.0.2                 0             0 65001 i"],
  prints [.privileged] "show ip nat translations"
      ["Pro Inside global      Inside local       Outside local      Outside global",
       "tcp 203.0.113.10:80    192.168.10.10:80   ---                ---"],
  prints [.privileged] "show ip nat statistics"
      ["Total active translations: 1 (1 static, 0 dynamic; 0 extended)"],
  prints [.privileged] "show access-lists"
      ["Standard IP access list 10", "    10 permit 192.168.10.0, wildcard bits 0.0.0.255"],
  prints [.privileged] "show crypto isakmp sa"
      ["dst             src             state          conn-id status",
       "10.0.0.2        10.0.0.1        QM_IDLE              1 ACTIVE"],
  prints [.privileged] "show crypto ipsec sa"
      ["interface: Tunnel0", "    Crypto map tag: Tunnel0-head-0, local addr 10.0.0.1"],
  prints [.privileged] "show port-security"
      ["Secure Port  MaxSecureAddr  CurrentAddr  SecurityViolation  Security Action",
       "                (Count)       (Count)          (Count)",
       "---------------------------------------------------------------------------"],
  prints [.privileged] "show environment" ["Fan 1: OK, Fan 2: OK", "Temp: 28C (Normal)"],
  prints [.privileged] "show power inline"
      ["Module   Available     Used     Remaining",
       "          (Watts)     (Watts)    (Watts)",
       "1           370.0        0.0       370.0"],
  prints [.privileged] "show processes cpu"
      ["CPU utilization for five seconds: 1%/0%; one minute: 1%; five minutes: 1%"],
  prints [.privileged] "show memory"
      ["Processor Pool Total: 10245628 Used: 452123 Free: 98124505"],
  prints [.privileged] "show logging"
      [("Syslog logging: enabled (0 messages dropped, 0 messages rate-limited, 0 flushes, 0 " ++
         "overruns, xml disabled, filtering disabled)")],
  prints [.privileged] "show controllers"
      ["Interface GigabitEthernet0/0", "Hardware is ISR4331-3x1GE"],
  prints [.privileged] "show tech-support"
      ["... Generating Tech Support Output ...",
       "(This typically outputs thousands of lines of config/state)",
       "[DONE]"],
  prints [.privileged] "show diag"
      ["... Generating Tech Support Output ...",
       "(This typically outputs thousands of lines of config/state)",
       "[DONE]"],
  prints [.privileged] "show protocols"
      ["Global values:", "  Internet Protocol routing is enabled"],
  prints execModes "show [args...]" [invalidInput],
  -- global configuration
  Rule.on [.config] "hostname <name>" fun c => .command (.setHostname (c.text "name")),
  Rule.on configModes "interface <name> [<suffix>]"
      fun c => .command (.enterInterface (c.text "name" ++ c.text "suffix")),
  Rule.on configModes "router ospf <num>"
      fun c => .command (.enterRouter ("ospf " ++ c.text "num")),
  Rule.on configModes "router bgp <num>"
      fun c => .command (.enterRouter ("bgp " ++ c.text "num")),
  Rule.on [.config] "ip route <ip> <mask> <next-hop>"
      fun c => .command (.addRoute (c.text "ip") (c.text "mask") (c.text "next-hop")),
  Rule.on [.config] "no ip route <ip> <mask> [<next-hop>]"
      fun c => .command (.removeRoute (c.text "ip") (c.text "mask") (c.find? "next-hop")),
  Rule.on configModes "vlan <vlan>" fun c => .command (.enterVlan (c.text "vlan")),
  Rule.on [.config] "no vlan <vlan>" fun c => .command (.removeVlan (c.text "vlan")),
  Rule.on [.config] "access-list <args...>" fun _ => .command .accept,
  Rule.on [.config] "line vty <args...>" fun _ => .command .accept,
  -- interface configuration
  Rule.on [.configInterface] "ip address <ip> <mask>"
      fun c => .command (.setAddress (c.text "ip") (c.text "mask")),
  Rule.on [.configInterface] "no ip address" fun _ => .command .clearAddress,
  Rule.on [.configInterface] "shutdown" fun _ => .command (.setUp false),
  Rule.on [.configInterface] "no shutdown" fun _ => .command (.setUp true),
  Rule.on [.configInterface] "description <text...>"
      fun c => .command (.setDescription (some (c.text "text"))),
  Rule.on [.configInterface] "no description" fun _ => .command (.setDescription none),
  Rule.on [.configInterface] "switchport access vlan <vlan>"
      fun c => .command (.setAccessVlan (c.text "vlan")),
  Rule.on [.configInterface] "no switchport access vlan" fun _ => .command .clearAccessVlan,
  Rule.on [.configInterface] "switchport mode <word>" fun _ => .command .accept,
  Rule.on [.configInterface] "no switchport" fun _ => .command .clearAccessVlan,
  Rule.on [.configInterface] "zone-member security <zone>"
      fun c => .command (.setZone (some (c.text "zone"))),
  Rule.on [.configInterface] "no zone-member security [<zone>]" fun _ => .command (.setZone none),
  -- routing protocol configuration
  Rule.on [.configRouter] "network <args...>" fun _ => .command .accept,
  Rule.on [.configRouter] "router-id <ip>" fun _ => .command .accept,
  Rule.on [.configRouter] "neighbor <args...>" fun _ => .command .accept,
  Rule.on [.configRouter] "passive-interface <name>" fun _ => .command .accept,
  -- vlan configuration
  Rule.on [.configVlan] "name <name>" fun c => .command (.nameVlan (c.text "name"))]

/-- The dialect of IOS, which Aruba and Extreme devices speak too. -/
def dialect : Dialect Command where
  modes := execModes ++ configModes
  table := table
  run := Command.run
  unknown mode := if execModes.contains mode then unknownCommand else invalidInput
  incomplete := incompleteCommand
  carriedMode := .privileged
  carriedUnknown := invalidInput

end TrainingLab.Ios
