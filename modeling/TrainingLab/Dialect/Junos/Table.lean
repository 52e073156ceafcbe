import TrainingLab.Dialect.Basic
import TrainingLab.Dialect.Junos.Command

/-
  The command table of Junos.
-/

namespace TrainingLab.Junos

open Grammar

/-- A rule that prints fixed lines. -/
def prints (modes : List Mode) (pattern : String) (lines : List String) : Rule (Request Command) :=
  Rule.on modes pattern fun _ => .command (.print lines)

/-- A rule for a level of the hierarchy. -/
def inside (scope : Scope) (pattern : String) (meaning : Captures → Request Command) :
    Rule (Request Command) :=
  (Rule.on [.edit] pattern meaning).within scope

/-- The rules in order. -/
def table : List (Rule (Request Command)) := [
  -- operational mode
  Rule.on [.user] "exit" fun _ => .command .accept,
  Rule.on [.user] "quit" fun _ => .command .accept,
  Rule.on [.user] "configure [<option>]" fun _ => .command .configure,
  Rule.on [.user] "edit" fun _ => .command .configure,
  prints [.user] "request system reboot" ["Rebooting..."],
  prints [.user] "request system halt" ["Halting..."],
  prints [.user] "monitor traffic [args...]" ["Monitoring traffic... (Press Ctrl+C to stop)"],
  Rule.on [.user] "ping [target...]" fun c => .command (.ping (c.find? "target")),
  Rule.on [.user] "traceroute [target...]" fun c => .command (.traceroute (c.find? "target")),
  prints [.user] "clear log [args...]" ["Logs cleared."],
  prints [.user] "clear <args...>" ["Statistics cleared."],
  Rule.on [.user] "show configuration [<section>]"
      fun c => .command (.showConfiguration (c.find? "section")),
  Rule.on [.user] "show version" fun _ => .command .showVersion,
  Rule.on [.user] "show interfaces terse" fun _ => .command .showTerse,
  prints [.user] "show interfaces extensive"
      ["Physical interface: ge-0/0/0, Enabled, Physical link is Up",
       ("  Link-level type: Ethernet, MTU: 1514, Speed: 1000mbps, BPDU Error: None, " ++
         "MAC-REWRITE Error: None, Loopback: Disabled"),
       "  Source filtering: Disabled, Flow control: Enabled"],
  Rule.on [.user] "show interfaces [<name>]" fun c => .command (.showInterfaces (c.find? "name")),
  prints [.user] "show route summary"
      ["Router ID: 192.168.1.1",
       "IPv4 Route Table: 12 destinations, 12 routes (12 active, 0 holddown, 0 hidden)"],
  prints [.user] "show route protocol ospf"
      ["ospf.0: 3 destinations, 3 routes (3 active, 0 holddown, 0 hidden)"],
  prints [.user] "show route protocol bgp"
      ["bgp.l3vpn.0: 0 destinations, 0 routes (0 active, 0 holddown, 0 hidden)"],
  Rule.on [.user] "show route" fun _ => .command .showRoutes,
  Rule.on [.user] "show arp [no-resolve]" fun _ => .command .showArp,
  Rule.on [.user] "show lldp neighbors" fun _ => .command .showLldp,
  prints [.user] "show system uptime"
      ["Current time: 2024-05-15 14:30:00 UTC", "System booted: 5 days ago"],
  prints [.user] "show system storage"
      ["Filesystem              Size       Used      Avail  Capacity   Mounted on",
       "/dev/gpt/junos          2.0G       1.2G       700M       63%   /"],
  prints [.user] "show system processes"
      ["PID USERNAME  THR PRI NICE   SIZE    RES STATE   C   TIME    WCPU COMMAND",
       "1234 root        1  20    0   800M   500M select  0   5:00   0.00% rpd"],
  prints [.user] "show chassis hardware"
      ["Hardware inventory:",
       "Item             Version  Part number  Serial number     Description",
       "Chassis                                VM6293482         vMX"],
  prints [.user] "show chassis routing-engine"
      ["Routing Engine status:", "  Temperature                 30 degrees C / 86 degrees F"],
  prints [.user] "show chassis environment"
      ["Class Item                           Status     Measurement",
       "Temp  Routing Engine                 OK         30 degrees C / 86 degrees F"],
  prints [.user] "show chassis alarms" ["No alarms currently active"],
  prints [.user] "show ospf neighbor"
      ["Address          Interface              State     ID               Pri  Dead",
       "10.0.0.2         ge-0/0/0.0             Full      2.2.2.2          128  35"],
  prints [.user] "show ospf interface"
      ["Interface           State   Area            DR ID           BDR ID          Nbrs",
       "ge-0/0/0.0          DR      0.0.0.0         192.168.1.1     0.0.0.0         1"],
  prints [.user] "show bgp summary"
      ["Groups: 1 Peers: 1 Down peers: 0",
       "Peer                     AS      InPkt     OutPkt    OutQ   Flaps Last Up/Dwn State",
       "10.0.0.2              65001       100        100       0       0       1d 2h Establ"],
  prints [.user] "show bgp neighbor [args...]"
      ["Peer: 10.0.0.2+179 AS 65001 Local: 10.0.0.1+54321 AS 65000",
       "  Type: External    State: Established    Flags: <Sync>"],
  Rule.on [.user] "show security policies" fun _ => .command .showPolicies,
  Rule.on [.user] "show security zones" fun _ => .command .showZones,
  prints [.user] "show security flow session"
      ["Session ID: 100, Policy name: allow-web, Timeout: 1800, Valid",
       "  In: 192.168.10.10/4321 --> 8.8.8.8/80;tcp, Conn Tag: 0x0, If: ge-0/0/0.0"],
  prints [.user] "show security nat source rule [args...]"
      ["Total Source rules: 1",
       "Rule name: source-nat-rule, Rule-set: source-nat-set",
       "  Rule-Id: 1, Rule type: source, Action: source-nat"],
  prints [.user] "show log messages" ["May 22 10:00:00 root: COMMIT_SUCCESS"],
  Rule.on [.user] "show cli history" fun _ => .command .showHistory,
  -- configuration mode: navigation and commit
  Rule.on [.edit] "exit configuration-mode" fun _ => .command .leave,
  Rule.on [.edit] "exit" fun _ => .command .exit,
  Rule.on [.edit] "quit" fun _ => .command .exit,
  Rule.on [.edit] "up" fun _ => .command .ascend,
  Rule.on [.edit] "top" fun _ => .command .top,
  prints [.edit] "commit check" ["configuration check succeeds"],
  Rule.on [.edit] "commit and-quit" fun _ => .command .commitAndQuit,
  Rule.on [.edit] "commit" fun _ => .command .commit,
  Rule.on [.edit] "rollback [<num>]" fun _ => .command .rollback,
  Rule.on [.edit] "show | compare" fun _ => .command .compare,
  Rule.on [.edit] "show [<section>]" fun c => .command (.showCandidate (c.find? "section")),
  Rule.on [.edit] "run <command...>" fun c => .carried (c.text "command"),
  -- configuration mode: hierarchy
  inside .top "edit interfaces <name>" fun c => .command (.editInterface (c.text "name")),
  inside .top "edit security zones security-zone <zone>"
      fun c => .command (.editObject .zone (c.text "zone")),
  inside .top "edit routing-options static route <cidr>"
      fun c => .command (.editObject .staticRoute (Network.canonicalPrefix (c.text "cidr"))),
  inside .top "edit protocols <name>"
      fun c => .command (.editObject .routeProtocol (c.text "name")),
  inside .top "edit vlans <name>" fun c => .command (.editObject .vlan (c.text "name")),
  Rule.on [.edit] "edit <path...>" fun c => .command (.editObject .configSection (c.text "path")),
  -- configuration mode: absolute statements
  inside .top "set interfaces <name> unit <unit> family inet address <cidr>"
      fun c => .command (.setAddress (.named (c.text "name")) (c.find? "unit") (c.text "cidr")),
  inside .top "set interfaces <name> description <text...>"
      fun c => .command (.describe (.named (c.text "name")) (some (Text.unquote (c.text "text")))),
  inside .top "set interfaces <name> disable"
      fun c => .command (.setUp (.named (c.text "name")) false),
  inside .top "delete interfaces <name> disable"
      fun c => .command (.setUp (.named (c.text "name")) true),
  inside .top "delete interfaces <name> description"
      fun c => .command (.describe (.named (c.text "name")) none),
  inside .top "delete interfaces <name> unit <unit> family inet address [<cidr>]"
      fun c => .command (.clearAddress (.named (c.text "name")) (c.find? "unit")),
  inside .top "delete interfaces <name>" fun c => .command (.deleteInterface (c.text "name")),
  inside .top "set security zones security-zone <zone> interfaces <name>"
      fun c => .command (.setZone (c.text "name") (c.text "zone")),
  inside .top "delete security zones security-zone <zone> interfaces <name>"
      fun c => .command (.clearZone (c.text "name")),
  inside .top "set routing-options static route <cidr> next-hop <next-hop>"
      fun c => .command (.addRoute (c.text "cidr") (c.text "next-hop")),
  inside .top "delete routing-options static route <cidr> [args...]"
      fun c => .command (.deleteRoute (c.text "cidr")),
  inside .top "set system host-name <name>" fun c => .command (.setHostname (c.text "name")),
  inside .top "set protocols <args...>" fun _ => .command .accept,
  inside .top "set vlans <args...>" fun _ => .command .accept,
  inside .top "set security policies <args...>" fun _ => .command .accept,
  -- configuration mode: statements relative to the current frame
  inside (.frame .interface) "set unit <unit> family inet address <cidr>"
      fun c => .command (.setAddress .edited (c.find? "unit") (c.text "cidr")),
  inside (.frame .interface) "delete unit <unit> family inet address [<cidr>]"
      fun c => .command (.clearAddress .edited (c.find? "unit")),
  inside (.frame .interface) "set description <text...>"
      fun c => .command (.describe .edited (some (Text.unquote (c.text "text")))),
  inside (.frame .interface) "set disable" fun _ => .command (.setUp .edited false),
  inside (.frame .interface) "delete disable" fun _ => .command (.setUp .edited true),
  inside (.frame .zone) "set interfaces <name>"
      fun c => .command (.setEditedZone (c.text "name")),
  inside (.frame .zone) "delete interfaces <name>"
      fun c => .command (.clearEditedZone (c.text "name")),
  inside (.frame .staticRoute) "set next-hop <next-hop>"
      fun c => .command (.addEditedRoute (c.text "next-hop")),
  inside (.frame .routeProtocol) "set <path...>" fun _ => .command .accept,
  inside (.frame .vlan) "set <path...>" fun _ => .command .accept,
  inside (.frame .configSection) "set <path...>" fun _ => .command .accept,
  prints [.edit] "set <path...>" [syntaxError],
  prints [.edit] "delete <path...>" [notFound],
  prints [] "show <args...>" [unknownCommand]]

/-- The dialect of Junos. -/
def dialect : Dialect Command where
  modes := [.user, .edit]
  table := table
  run := Command.run
  unknown _ := unknownCommand
  incomplete := incompleteCommand
  carriedUnknown := unknownCommand

end TrainingLab.Junos
