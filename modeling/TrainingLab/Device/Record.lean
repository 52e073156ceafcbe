import TrainingLab.Datum.Basic
import TrainingLab.Device.GuiEdit

/-
  Devices as records of a document. Reading what was written gives the same value again. A stack
  of edited objects is written outermost object first.
-/

namespace TrainingLab

open Datum

/-! ## Names -/

/-- The value of a list whose name is given. -/
def byName? {α : Type} (all : List α) (name : α → String) (s : String) : Option α :=
  all.find? fun a => name a == s

/-- The vendor of a name. -/
def Vendor.ofName? (s : String) : Option Vendor := byName? all name s

/-- The class of a name. -/
def DeviceClass.ofName? (s : String) : Option DeviceClass := byName? all name s

namespace Mode

/-- All modes. -/
def all : List Mode :=
  [user, privileged, config, configInterface, configRouter, configVlan, edit]

/-- The name of the mode. -/
def name : Mode → String
  | user => "User"
  | privileged => "Privileged"
  | config => "Config"
  | configInterface => "ConfigInterface"
  | configRouter => "ConfigRouter"
  | configVlan => "ConfigVlan"
  | edit => "Edit"

/-- The mode of a name. -/
def ofName? (s : String) : Option Mode := byName? all name s

end Mode

namespace FrameKind

/-- All kinds of edited objects. -/
def all : List FrameKind :=
  [interface, zone, policyObject, routeProtocol, staticRoute, vlan, configSection]

/-- The name of the kind. -/
def name : FrameKind → String
  | interface => "Interface"
  | zone => "Zone"
  | policyObject => "PolicyObject"
  | routeProtocol => "RouteProtocol"
  | staticRoute => "StaticRoute"
  | vlan => "Vlan"
  | configSection => "Section"

/-- The kind of a name. -/
def ofName? (s : String) : Option FrameKind := byName? all name s

end FrameKind

/-! ## Parts of a device -/

namespace Interface

/-- The fields of an interface. -/
def fields : List Field :=
  [⟨"ip", .always⟩, ⟨"mask", .always⟩, ⟨"up", .always⟩, ⟨"vlan", .always⟩, ⟨"zone", .always⟩,
    ⟨"description", .always⟩]

/-- Reads an interface. -/
def ofDatum? (d : Datum) : Option Interface :=
  match fieldValues? fields d with
  | some [ip, mask, up, vlan, zone, description] => do
    let ip ← orElse ip "" text?
    let mask ← orElse mask "" text?
    let up ← orElse up true bool?
    let vlan ← omissible vlan uint16?
    let zone ← omissible zone text?
    let description ← omissible description text?
    some { ip, mask, up, vlan, zone, description }
  | _ => none

/-- Writes an interface. -/
def toDatum (i : Interface) : Datum :=
  .record
    ([("ip", .text i.ip), ("mask", .text i.mask), ("up", .bool i.up)] ++
      ifPresent "vlan" (fun n => .ofNat n.toNat) i.vlan ++
      ifPresent "zone" .text i.zone ++
      ifPresent "description" .text i.description)

end Interface

namespace Route

/-- The fields of a route. -/
def fields : List Field := [⟨"destination", .never⟩, ⟨"next_hop", .never⟩, ⟨"interface", .always⟩]

/-- Reads a route. -/
def ofDatum? (d : Datum) : Option Route :=
  match fieldValues? fields d with
  | some [destination, nextHop, interface] => do
    let destination ← required destination text?
    let nextHop ← required nextHop text?
    let interface ← omissible interface text?
    some { destination, nextHop, interface }
  | _ => none

/-- Writes a route. -/
def toDatum (r : Route) : Datum :=
  .record
    ([("destination", .text r.destination), ("next_hop", .text r.nextHop)] ++
      ifPresent "interface" .text r.interface)

end Route

namespace Policy

/-- The fields of a policy. -/
def fields : List Field :=
  [⟨"id", .never⟩, ⟨"name", .never⟩, ⟨"from_zone", .never⟩, ⟨"to_zone", .never⟩,
    ⟨"action", .never⟩, ⟨"priority", .always⟩, ⟨"protocol", .always⟩, ⟨"dst_port", .always⟩,
    ⟨"src_addr", .always⟩, ⟨"dst_addr", .always⟩]

/-- Reads an action. -/
def readAction? (d : Datum) : Option PolicyAction :=
  choice? (byName? [.allow, .deny] PolicyAction.name) d

/-- Reads a transport protocol. -/
def readTransport? (d : Datum) : Option Transport :=
  choice? (byName? Transport.all Transport.name) d

/-- Reads a policy. -/
def ofDatum? (d : Datum) : Option Policy :=
  match fieldValues? fields d with
  | some [id, name, fromZone, toZone, action, priority, protocol, port, source, destination] => do
    let id ← required id uint32?
    let name ← required name text?
    let fromZone ← required fromZone text?
    let toZone ← required toZone text?
    let action ← required action readAction?
    let priority ← omissible priority uint32?
    let protocol ← omissible protocol readTransport?
    let port ← omissible port uint16?
    let source ← orElse source "any" text?
    let destination ← orElse destination "any" text?
    some
      { id, name, fromZone, toZone, action, priority, protocol, port, source, destination }
  | _ => none

/-- Writes a policy. -/
def toDatum (p : Policy) : Datum :=
  .record
    ([("id", .ofNat p.id.toNat), ("name", .text p.name), ("from_zone", .text p.fromZone),
        ("to_zone", .text p.toZone), ("action", .text p.action.name)] ++
      ifPresent "priority" (fun n => .ofNat n.toNat) p.priority ++
      ifPresent "protocol" (fun t => .text t.name) p.protocol ++
      ifPresent "dst_port" (fun n => .ofNat n.toNat) p.port ++
      [("src_addr", .text p.source), ("dst_addr", .text p.destination)])

end Policy

namespace Frame

/-- Reads an edited object. -/
def ofDatum? (d : Datum) : Option Frame :=
  match fieldValues? [⟨"kind", .never⟩, ⟨"name", .never⟩] d with
  | some [kind, name] => do
    let kind ← required kind (choice? FrameKind.ofName?)
    let name ← required name text?
    some { kind, name }
  | _ => none

/-- Writes an edited object. -/
def toDatum (f : Frame) : Datum := .record [("kind", .text f.kind.name), ("name", .text f.name)]

/-- Reads a stack of edited objects, outermost first. -/
def readStack? (d : Datum) : Option (List Frame) := (list? ofDatum? d).map List.reverse

/-- Writes a stack of edited objects, outermost first. -/
def stackDatum (context : List Frame) : Datum := .list (context.reverse.map toDatum)

end Frame

/-! ## Maps -/

/-- Reads interfaces by their names. Of two with one name the last counts. -/
def readInterfaces? (d : Datum) : Option (SortedMap String Interface) :=
  (entries? Interface.ofDatum? d).map SortedMap.ofList

/-- Writes interfaces by their names. -/
def interfacesDatum (m : SortedMap String Interface) : Datum :=
  .record (m.entries.map fun (name, i) => (name, i.toDatum))

/-- A VLAN id as the name of a field: digits, without a leading zero. -/
def readVlanId? (s : String) : Option UInt16 :=
  if s.toList.head? = some '+' ∨ (s.toList.length > 1 ∧ s.toList.head? = some '0') then none
  else Text.readUInt16? s

/-- Reads VLAN names by their ids. Of two with one id the last counts. -/
def readVlans? (d : Datum) : Option (SortedMap UInt16 String) :=
  (numbered? readVlanId? text? d).map SortedMap.ofList

/-- Writes VLAN names by their ids. -/
def vlansDatum (m : SortedMap UInt16 String) : Datum :=
  .record (m.entries.map fun (id, name) => (toString id, .text name))

/-! ## Devices -/

namespace Candidate

/-- The fields of a candidate. -/
def fields : List Field :=
  [⟨"interfaces", .always⟩, ⟨"removed", .always⟩, ⟨"routes", .always⟩, ⟨"hostname", .always⟩]

/-- Reads a set of names. -/
def readNames? (d : Datum) : Option (SortedMap String Unit) :=
  (list? text? d).map fun names => SortedMap.ofList (names.map fun n => (n, ()))

/-- Reads a candidate. -/
def ofDatum? (d : Datum) : Option Candidate :=
  match fieldValues? fields d with
  | some [interfaces, removed, routes, hostname] => do
    let interfaces ← orElse interfaces SortedMap.empty readInterfaces?
    let removed ← orElse removed SortedMap.empty readNames?
    let routes ← omissible routes (list? Route.ofDatum?)
    let hostname ← omissible hostname text?
    some { interfaces, removed, routes, hostname }
  | _ => none

/-- Writes a candidate. -/
def toDatum (c : Candidate) : Datum :=
  .record
    [("interfaces", interfacesDatum c.interfaces), ("removed", .ofTexts c.removed.keys),
      ("routes", .ofOption (fun routes => .list (routes.map Route.toDatum)) c.routes),
      ("hostname", .ofOption .text c.hostname)]

end Candidate

namespace Device

/-- The fields of a device. -/
def fields : List Field :=
  [⟨"id", .never⟩, ⟨"name", .never⟩, ⟨"type", .never⟩, ⟨"vendor", .never⟩,
    ⟨"interfaces", .always⟩, ⟨"routes", .always⟩, ⟨"policies", .always⟩, ⟨"vlans", .always⟩,
    ⟨"mode", .always⟩, ⟨"context", .always⟩, ⟨"candidate", .always⟩, ⟨"history", .always⟩]

/-- Reads a device. -/
def ofDatum? (d : Datum) : Option Device :=
  match fieldValues? fields d with
  | some [id, name, kind, vendor, interfaces, routes, policies, vlans, mode, context, candidate,
      history] => do
    let id ← required id text?
    let name ← required name text?
    let kind ← required kind (choice? DeviceClass.ofName?)
    let vendor ← required vendor (choice? Vendor.ofName?)
    let interfaces ← orElse interfaces SortedMap.empty readInterfaces?
    let routes ← orElse routes [] (list? Route.ofDatum?)
    let policies ← orElse policies [] (list? Policy.ofDatum?)
    let vlans ← orElse vlans SortedMap.empty readVlans?
    let mode ← orElse mode .user (choice? Mode.ofName?)
    let context ← orElse context [] Frame.readStack?
    let candidate ← omissible candidate Candidate.ofDatum?
    let history ← orElse history [] (list? text?)
    some
      { id, name, kind, vendor, interfaces, routes, policies, vlans, mode, context, candidate,
        history }
  | _ => none

/-- The live and the staged configuration as fields. -/
def configurationFields (d : Device) : List (String × Datum) :=
  [("name", .text d.name), ("interfaces", interfacesDatum d.interfaces),
    ("routes", .list (d.routes.map Route.toDatum)),
    ("policies", .list (d.policies.map Policy.toDatum)), ("vlans", vlansDatum d.vlans)] ++
  ifPresent "candidate" Candidate.toDatum d.candidate

/-- What identifies the device, as fields. -/
def identityFields (d : Device) : List (String × Datum) :=
  [("id", .text d.id), ("type", .text d.kind.name), ("vendor", .text d.vendor.name)]

/-- The state of the console without its scrollback, as fields. -/
def consoleFields (d : Device) : List (String × Datum) :=
  [("mode", .text d.mode.name), ("context", Frame.stackDatum d.context)]

/-- Writes a device. -/
def toDatum (d : Device) : Datum :=
  .record
    (d.identityFields ++ d.configurationFields ++ d.consoleFields ++
      [("history", .ofTexts d.history)])

end Device

/-! ## Edits -/

namespace GuiEdit

/-- Reads the name of an interface and what an edit needs besides. The second field may be left
    out by a record that names its fields, if `read` makes something of nothing. -/
def readChange? {α : Type} (second : Field) (read : Option Datum → Option α)
    (edit : α → InterfaceEdit) (d : Datum) : Option GuiEdit :=
  match fieldValues? [⟨"interface", .never⟩, second] d with
  | some [target, value] => do
    let name ← required target text?
    let value ← read value
    some (.interface name (edit value))
  | _ => none

/-- Reads the name of an interface and nothing else. -/
def readName? (edit : InterfaceEdit) (d : Datum) : Option GuiEdit :=
  match fieldValues? [⟨"interface", .never⟩] d with
  | some [target] => (required target text?).map fun name => .interface name edit
  | _ => none

/-- Reads an edit: `Commit`, or a record with the kind of edit as its only field. -/
def ofDatum? : Datum → Option GuiEdit
  | .text "Commit" => some .commit
  | .record [(kind, d)] _ =>
    match kind with
    | "Commit" =>
      match d with
      | .null => some .commit
      | _ => none
    | "SetIp" => readChange? ⟨"ip", .never⟩ (required · text?) .ip d
    | "SetMask" => readChange? ⟨"mask", .never⟩ (required · text?) .mask d
    | "SetUp" => readChange? ⟨"up", .never⟩ (required · bool?) .up d
    | "ToggleUp" => readName? .toggle d
    | "SetZone" => readChange? ⟨"zone", .byName⟩ (omissible · text?) .zone d
    | "SetDescription" => readChange? ⟨"description", .byName⟩ (omissible · text?) .description d
    | _ => none
  | _ => none

/-- Writes an edit of an interface. -/
def changeDatum (kind name : String) (fields : List (String × Datum)) : Datum :=
  .record [(kind, .record (("interface", .text name) :: fields))]

/-- Writes an edit. -/
def toDatum : GuiEdit → Datum
  | .commit => .text "Commit"
  | .interface name (.ip address) => changeDatum "SetIp" name [("ip", .text address)]
  | .interface name (.mask value) => changeDatum "SetMask" name [("mask", .text value)]
  | .interface name (.up isUp) => changeDatum "SetUp" name [("up", .bool isUp)]
  | .interface name .toggle => changeDatum "ToggleUp" name []
  | .interface name (.zone zone) => changeDatum "SetZone" name [("zone", .ofOption .text zone)]
  | .interface name (.description value) =>
    changeDatum "SetDescription" name [("description", .ofOption .text value)]

end GuiEdit

end TrainingLab
