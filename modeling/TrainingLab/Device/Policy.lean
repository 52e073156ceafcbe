import TrainingLab.Text.Case

/-
  Firewall policies and the rules of network security groups.
-/

namespace TrainingLab

/-- A transport protocol. -/
inductive Transport
  | tcp
  | udp
  | icmp
deriving DecidableEq, Repr

namespace Transport

/-- All transport protocols. -/
def all : List Transport := [tcp, udp, icmp]

/-- The name in lower case. -/
def name : Transport → String
  | tcp => "tcp"
  | udp => "udp"
  | icmp => "icmp"

/-- The protocol of a name in any case. -/
def ofName? (s : String) : Option Transport :=
  let s := Text.lower s
  all.find? fun t => t.name == s

end Transport

/-- What happens to traffic that a policy matches. -/
inductive PolicyAction
  | allow
  | deny
deriving DecidableEq, Repr

namespace PolicyAction

/-- The name in lower case. -/
def name : PolicyAction → String
  | allow => "allow"
  | deny => "deny"

end PolicyAction

/-- A policy between two zones. A selector that is not set matches everything; rules without a
    priority keep the order of their list. -/
structure Policy where
  id : UInt32
  name : String
  fromZone : String
  toZone : String
  action : PolicyAction
  priority : Option UInt32 := none
  protocol : Option Transport := none
  port : Option UInt16 := none
  source : String := "any"
  destination : String := "any"
deriving DecidableEq, Repr

namespace Policy

/-- The protocol and port selectors match a flow. A flow without a port is matched only by a
    policy without one. -/
def covers (p : Policy) (transport : Transport) (port : Option UInt16) : Bool :=
  (match p.protocol with
    | none => true
    | some t => t == transport) &&
  (match p.port, port with
    | none, _ => true
    | some a, some b => a == b
    | some _, none => false)

/-- The selectors as one word: `tcp/80`, `udp`, `any/53`, `any`. -/
def service (p : Policy) : String :=
  match p.protocol, p.port with
  | none, none => "any"
  | some t, none => t.name
  | none, some port => "any/" ++ toString port
  | some t, some port => t.name ++ "/" ++ toString port

/-- The id after the highest one in use, if there is one left. -/
def nextId? (policies : List Policy) : Option UInt32 :=
  let highest := policies.foldl (fun n p => max n p.id.toNat) 0
  if highest + 1 < UInt32.size then some (UInt32.ofNat (highest + 1)) else none

end Policy

end TrainingLab
