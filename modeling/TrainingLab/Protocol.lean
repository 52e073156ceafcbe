import TrainingLab.Device.Policy

/-
  Application protocols: the traffic of a simulated flow, and the services of a policy.
-/

namespace TrainingLab

/-- An application protocol. -/
inductive Protocol
  | http
  | https
  | ssh
  | telnet
  | dns
  | icmp
deriving DecidableEq, Repr

namespace Protocol

/-- All protocols. -/
def all : List Protocol := [http, https, ssh, telnet, dns, icmp]

/-- The name for people. -/
def name : Protocol → String
  | http => "HTTP"
  | https => "HTTPS"
  | ssh => "SSH"
  | telnet => "Telnet"
  | dns => "DNS"
  | icmp => "ICMP"

/-- The transport protocol. -/
def transport : Protocol → Transport
  | http => .tcp
  | https => .tcp
  | ssh => .tcp
  | telnet => .tcp
  | dns => .udp
  | icmp => .icmp

/-- The destination port. -/
def port : Protocol → Option UInt16
  | http => some 80
  | https => some 443
  | ssh => some 22
  | telnet => some 23
  | dns => some 53
  | icmp => none

/-- Transport and port as one word. -/
def selector (p : Protocol) : String :=
  match p.port with
  | some port => p.transport.name ++ "/" ++ toString port
  | none => p.transport.name

/-- The protocol of a name in any case. -/
def ofName? (s : String) : Option Protocol :=
  match Text.lower s with
  | "http" => some http
  | "https" => some https
  | "ssh" => some ssh
  | "telnet" => some telnet
  | "dns" => some dns
  | "icmp" => some icmp
  | "ping" => some icmp
  | _ => none

end Protocol

end TrainingLab
