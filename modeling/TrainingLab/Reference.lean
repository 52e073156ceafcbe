import TrainingLab.SortedMap
import TrainingLab.Device.Vendor
import TrainingLab.Text.Case
import TrainingLab.Text.Words

/-
  The command references: for every family its commands by category. Help texts and the completion
  of words come from them.
-/

namespace TrainingLab

/-- Commands that belong together, under a title. -/
structure CommandCategory where
  title : String
  commands : List String
deriving DecidableEq, Repr

/-- The categories of a family, in the order of their display. -/
abbrev Reference := List CommandCategory

namespace Reference

/-! ## The references -/

/-- The commands of IOS. -/
def ios : Reference := [
  ⟨"User Mode",
    ["enable", "ping", "traceroute", "show version", "show clock", "show history",
      "show inventory", "show users", "show sessions", "show ssh", "show flash",
      "show file systems"]⟩,
  ⟨"Privileged Mode",
    ["configure terminal", "write", "copy running-config startup-config", "reload",
      "debug ip packet", "undebug all", "clear counters", "clear arp", "clear logging",
      "delete nvram:startup-config", "disable"]⟩,
  ⟨"Global Configuration",
    ["hostname", "interface", "router ospf", "router bgp", "ip route", "no ip route", "vlan",
      "access-list", "line vty", "do", "end", "exit"]⟩,
  ⟨"Interface Configuration",
    ["ip address", "no ip address", "shutdown", "no shutdown", "description",
      "switchport access vlan", "switchport mode access", "zone-member security"]⟩,
  ⟨"Show Configuration",
    ["show running-config", "show startup-config", "show interfaces", "show ip interface brief",
      "show ip route", "show protocols"]⟩,
  ⟨"Show Layer 2",
    ["show vlan brief", "show mac address-table", "show spanning-tree",
      "show etherchannel summary", "show cdp neighbors", "show cdp neighbors detail",
      "show lldp neighbors", "show lldp neighbors detail", "show arp"]⟩,
  ⟨"Show Layer 3/Routing",
    ["show ip protocols", "show ip ospf neighbor", "show ip ospf interface", "show bgp summary",
      "show bgp all", "show ip nat translations", "show ip nat statistics"]⟩,
  ⟨"Show Security",
    ["show access-lists", "show crypto isakmp sa", "show crypto ipsec sa", "show port-security"]⟩,
  ⟨"Show System/Hardware",
    ["show environment", "show power inline", "show processes cpu", "show memory",
      "show logging", "show controllers", "show tech-support", "show diag"]⟩]

/-- The commands of Junos. -/
def junos : Reference := [
  ⟨"Operational",
    ["configure", "show interfaces terse", "show interfaces extensive", "show route",
      "show route summary", "show configuration", "request system reboot", "request system halt",
      "monitor traffic", "ping", "traceroute", "clear interface statistics"]⟩,
  ⟨"Show System",
    ["show version", "show system uptime", "show system storage", "show system processes",
      "show chassis hardware", "show chassis routing-engine", "show chassis alarms",
      "show chassis environment"]⟩,
  ⟨"Show Routing/Proto",
    ["show arp", "show lldp neighbors", "show ospf neighbor", "show ospf interface",
      "show bgp summary", "show bgp neighbor", "show route protocol ospf",
      "show route protocol bgp"]⟩,
  ⟨"Show Security",
    ["show security policies", "show security zones", "show security flow session",
      "show security nat source rule"]⟩,
  ⟨"Logs", ["show log messages", "show cli history", "clear log messages"]⟩,
  ⟨"Configuration",
    ["edit", "set interfaces", "set security zones", "set routing-options static route",
      "set system host-name", "delete", "commit", "commit check", "rollback", "show",
      "show | compare", "run", "up", "top", "exit"]⟩]

/-- The commands of FortiOS. -/
def fortiOs : Reference := [
  ⟨"Execute",
    ["execute ping", "execute ssh", "execute telnet", "execute reboot", "execute ping-options",
      "execute factoryreset", "execute backup config"]⟩,
  ⟨"Get System",
    ["get system status", "get system performance status", "get system interface",
      "get system arp", "get hardware status", "get hardware cpu", "get hardware memory"]⟩,
  ⟨"Get Router",
    ["get router info routing-table all", "get router info ospf neighbor",
      "get router info bgp summary", "get router info kernel"]⟩,
  ⟨"Diagnose",
    ["diagnose sys session list", "diagnose sys top", "diagnose hardware deviceinfo nic",
      "diagnose debug enable", "diagnose debug flow trace"]⟩,
  ⟨"Show / Config",
    ["show firewall policy", "show system dns", "show vpn ipsec tunnel summary",
      "config system interface", "config firewall policy", "config router static",
      "config router ospf", "show full-configuration", "show router static"]⟩,
  ⟨"Object Editing",
    ["edit", "set ip", "set status", "set alias", "set zone", "set srcintf", "set dstintf",
      "set action", "set service", "set dst", "set gateway", "set device", "delete", "next",
      "end"]⟩]

/-- The commands of PAN-OS. -/
def panOs : Reference := [
  ⟨"Operational",
    ["show system info", "show system resources", "show system statistics", "show system state",
      "request system restart", "request shutdown", "ping", "test security-policy-match",
      "debug dataplane packet-diag"]⟩,
  ⟨"Show Network",
    ["show interface all", "show interface logical", "show interface hardware", "show arp all",
      "show routing route", "show high-availability all"]⟩,
  ⟨"Show Session/User",
    ["show session all", "show session info", "show session meter", "show jobs all",
      "show admins", "show user ip-user-mapping all"]⟩,
  ⟨"Show Config",
    ["show running security-policy", "show running nat-policy", "show counter global",
      "show config running", "show config candidate"]⟩,
  ⟨"Configuration",
    ["configure", "set network interface", "set network zone", "set zone",
      "set rulebase security rules", "set deviceconfig system hostname",
      "set network virtual-router", "delete rulebase security rules", "commit", "exit",
      "load config from"]⟩]

/-- The commands of the cloud console. -/
def cloudConsole : Reference := [
  ⟨"Show", ["show nsg rules", "show effective-routes", "show interfaces", "show arp"]⟩]

/-- The reference of a family. -/
def ofFamily : Family → Reference
  | .cisco => ios
  | .juniper => junos
  | .fortinet => fortiOs
  | .paloAlto => panOs
  | .cloud => cloudConsole

/-! ## Help -/

/-- All commands. -/
def commands (r : Reference) : List String := r.flatMap CommandCategory.commands

/-- The words of all commands. -/
def vocabulary (r : Reference) : SortedMap String Unit :=
  SortedMap.ofList ((r.commands.flatMap Text.words).map fun w => (w, ()))

/-- The line of a category: its first five commands. -/
def categoryLine (c : CommandCategory) : String :=
  c.title ++ ": " ++ Text.joinWith ", " (c.commands.take 5) ++ " ..."

/-- What a question mark shows on a device of the vendor. -/
def helpLines (r : Reference) (v : Vendor) : List String :=
  ["--- " ++ v.name ++ " Available Commands (Partial List) ---"] ++ r.map categoryLine ++
    ["(See \"Lab Documentation\" tab for full list)"]

/-! ## Completion -/

/-- The longest common beginning of two words. -/
def commonStart : List Char → List Char → List Char
  | a :: as, b :: bs => if a = b then a :: commonStart as bs else []
  | _, _ => []

/-- Completes a word that some words begin with: to the only one with a space behind it, or to the
    common beginning of several, if that is longer (in bytes of UTF-8) than what was typed. -/
def extend? (typed : String) : List String → Option String
  | [] => none
  | [word] => some (word ++ " ")
  | word :: others =>
    let common :=
      String.ofList (others.foldl (fun start w => commonStart start w.toList) word.toList)
    if typed.utf8ByteSize < common.utf8ByteSize then some common else none

/-- Completes the word behind the last space. Letter case does not count. -/
def complete (r : Reference) (input : String) : String :=
  let (head, typed) := Text.splitAfterLast ' ' input
  if typed == "" then input
  else
    match extend? typed (r.vocabulary.keys.filter fun w => Text.begins (Text.lower typed) w) with
    | some completed => head ++ completed
    | none => input

end Reference

end TrainingLab
