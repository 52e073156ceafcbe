import TrainingLab.Dialect.Basic
import TrainingLab.Dialect.PanOs.Command

/-
  The command table of PAN-OS.
-/

namespace TrainingLab.PanOs

open Grammar

/-- A rule that prints fixed lines. -/
def prints (modes : List Mode) (pattern : String) (lines : List String) : Rule (Request Command) :=
  Rule.on modes pattern fun _ => .command (.print lines)

/-- The rules in order. -/
def table : List (Rule (Request Command)) := [
  -- operational mode
  Rule.on [.user] "configure" fun _ => .command .configure,
  Rule.on [.user] "exit" fun _ => .command .accept,
  prints [.user] "request system restart" ["Executing restart..."],
  prints [.user] "request shutdown [args...]" ["Executing shutdown..."],
  Rule.on [.user] "test security-policy-match [args...]"
      fun c => .command (.testPolicy (Text.words (c.text "args"))),
  prints [.user] "debug dataplane [args...]" ["Dataplane packet diagnosis enabled."],
  Rule.on [.user] "ping host <target>" fun c => .command (.ping (c.text "target")),
  Rule.on [.user] "ping [args...]" fun _ => .command (.ping "8.8.8.8"),
  Rule.on [.user] "show interface all" fun _ => .command .showInterfaces,
  Rule.on [.user] "show interface logical" fun _ => .command .showLogicalInterfaces,
  Rule.on [.user] "show interface hardware" fun _ => .command .showHardwareInterfaces,
  Rule.on [.user] "show routing route [args...]" fun _ => .command .showRoutes,
  Rule.on [.user] "show system info" fun _ => .command .showSystemInfo,
  prints [.user] "show system state [args...]" ["sys.s1.p1.limit: 100"],
  prints [.user] "show system resources [args...]"
      ["load average: 0.05, 0.08, 0.02", "Mem: 4G total, 1G used"],
  prints [.user] "show system statistics [args...]"
      ["counter          value      rate",
       "---------------------------------",
       "flow_fwd_l3_mcast 0        0"],
  Rule.on [.user] "show arp all" fun _ => .command .showArp,
  prints [.user] "show session all"
      ["ID      Application    State    Type    Flag  Src[Sport]/Zone/Proto",
       "2423    dns            ACTIVE   FLOW    NS    192.168.10.10[4232]/TRUST/17"],
  prints [.user] "show session info" ["Session statistics", "  Number of allocated sessions: 1"],
  prints [.user] "show session meter" ["Session metering statistics", "  tps: 0"],
  prints [.user] "show user ip-user-mapping [args...]"
      ["IP              Vsys   Type   User              IdleTimeout(s) MaxTimeout(s)",
       "192.168.1.50    vsys1  AD     domain\\alice      900            3600"],
  prints [.user] "show counter global [args...]" ["Global counters:", "flow_fwd_l3_mcast 0"],
  prints [.user] "show jobs all"
      ["Enqueued Dequeued ID      Type    Status  Result  Completed",
       "14:20:01 14:20:01 12      Commit  FIN     OK      14:20:15"],
  prints [.user] "show admins"
      ["Admin     From            Role              Client",
       "admin     192.168.10.10   superuser         Web"],
  prints [.user] "show high-availability [args...]" ["High Availability is not enabled"],
  Rule.on [.user] "show running security-policy" fun _ => .command .showSecurityPolicy,
  prints [.user] "show running nat-policy" ["No NAT policies configured."],
  prints [.user] "show config running"
      ["users \x7b",
       "  admin \x7b",
       "    password-hash ...;",
       "    permissions superuser;",
       "  \x7d",
       "\x7d"],
  prints [.user] "show config candidate" ["Candidate config same as running."],
  prints [.user] "show [args...]" [invalidSyntax],
  -- configuration mode
  Rule.on [.config] "exit" fun _ => .command .exit,
  Rule.on [.config] "quit" fun _ => .command .exit,
  Rule.on [.config] "set network interface ethernet <name> layer3 ip <cidr>"
      fun c => .command (.setAddress (c.text "name") (c.text "cidr")),
  prints [.config] "set network zone [args...]" ["[OK]"],
  Rule.on [.config] "set zone <zone> network layer3 <name>"
      fun c => .command (.setZone (c.text "name") (c.text "zone")),
  Rule.on [.config] "set deviceconfig system hostname <name>"
      fun c => .command (.setHostname (c.text "name")),
  Rule.on [.config] "set rulebase security rules <name> <field> <value>"
      fun c => .command (.setRule (c.text "name") (c.text "field") (c.text "value")),
  Rule.on [.config] "delete rulebase security rules <name>"
      fun c => .command (.deleteRule (c.text "name")),
  Rule.on [.config] ("set network virtual-router <vr> routing-table ip static-route <route> " ++
      "destination <cidr> nexthop ip-address <next-hop>")
      fun c => .command (.addRoute (c.text "cidr") (c.text "next-hop")),
  Rule.on [.config] "set network virtual-router <vr> [args...]" fun _ => .command .accept,
  prints [.config] "commit [args...]" ["Configuration committed successfully"],
  Rule.on [.config] "load config from <file>" fun c => .command (.loadConfig (c.text "file")),
  Rule.on [.config] "run <command...>" fun c => .carried (c.text "command")]

/-- The dialect of PAN-OS. -/
def dialect : Dialect Command where
  modes := [.user, .config]
  table := table
  run := Command.run
  unknown _ := invalidSyntax
  incomplete := incompleteCommand
  carriedMode := .user
  carriedUnknown := invalidSyntax

end TrainingLab.PanOs
