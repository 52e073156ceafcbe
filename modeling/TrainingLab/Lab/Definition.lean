import TrainingLab.Device.Record
import TrainingLab.Json.Reader
import TrainingLab.Lab.Basic

/-
  From definitions to labs and back. A definition makes a lab if no two devices share an id and
  the topology names devices of the lab, none of them twice.
-/

namespace TrainingLab

/-! ## Validation -/

/-- A device without a scrollback shows what its console prints at start. -/
def Device.boot (d : Device) : Device :=
  if d.history.isEmpty then
    { d with
      history := d.vendor.bootBanner ++ ["Welcome to " ++ d.name ++ " (" ++ d.vendor.name ++ ")"] }
  else d

namespace Lab

/-- Adds devices to those collected, until an id occurs for the second time. -/
def collectDevices : List Device → Inventory → Except LabError Inventory
  | [], m => .ok m
  | d :: rest, m =>
    if m.contains d.id then .error (.duplicateDevice d.id)
    else collectDevices rest (m.insert d.id d.boot)

/-- Finds the first id that is unknown or has been seen before. -/
def checkPath (devices : Inventory) : List DeviceId → List DeviceId → Except LabError Unit
  | _, [] => .ok ()
  | seen, id :: rest =>
    if devices.contains id && !seen.contains id then checkPath devices (id :: seen) rest
    else .error (.danglingTopologyNode id)

/-- Makes a lab. -/
def ofDefinition (d : LabDefinition) : Except LabError Lab := do
  let devices ← collectDevices d.devices SortedMap.empty
  checkPath devices [] (d.topology.map TopologyNode.deviceId)
  return {
    id := d.id
    title := d.title
    description := d.description
    difficulty := d.difficulty
    vendor := d.vendor
    devices
    topology := d.topology
    objectives := d.objectives
    documentation := d.documentation }

/-- The definition that makes the lab as it is now: the devices of the topology in its order, then
    the others by their ids. -/
def toDefinition (l : Lab) : LabDefinition where
  id := l.id
  title := l.title
  description := l.description
  difficulty := l.difficulty
  vendor := l.vendor
  devices := l.path.filterMap l.devices.find? ++ (l.devices.eraseAll l.path).values
  topology := l.topology
  objectives := l.objectives
  documentation := l.documentation

end Lab

/-! ## Records -/

open Datum

/-- The degree of a name. -/
def Difficulty.ofName? (s : String) : Option Difficulty := byName? all name s

namespace TopologyNode

/-- Reads a node. -/
def ofDatum? (d : Datum) : Option TopologyNode :=
  match
    fieldValues? [⟨"device_id", .never⟩, ⟨"label", .never⟩, ⟨"icon", .never⟩, ⟨"x", .never⟩,
      ⟨"y", .never⟩] d with
  | some [deviceId, label, icon, x, y] => do
    let deviceId ← required deviceId text?
    let label ← required label text?
    let icon ← required icon (choice? DeviceClass.ofName?)
    let x ← required x finite?
    let y ← required y finite?
    some { deviceId, label, icon, x, y }
  | _ => none

/-- Writes a node. -/
def toDatum (n : TopologyNode) : Datum :=
  .record
    [("device_id", .text n.deviceId), ("label", .text n.label), ("icon", .text n.icon.name),
      ("x", .number n.x), ("y", .number n.y)]

end TopologyNode

namespace Documentation

/-- Reads the texts of the documentation view. -/
def ofDatum? (d : Datum) : Option Documentation :=
  match fieldValues? [⟨"initial_config", .never⟩, ⟨"packet_flow", .never⟩] d with
  | some [initialConfig, packetFlow] => do
    let initialConfig ← required initialConfig text?
    let packetFlow ← required packetFlow text?
    some { initialConfig, packetFlow }
  | _ => none

/-- Writes the texts of the documentation view. -/
def toDatum (d : Documentation) : Datum :=
  .record [("initial_config", .text d.initialConfig), ("packet_flow", .text d.packetFlow)]

end Documentation

namespace LabDefinition

/-- The fields of a definition. -/
def fields : List Field :=
  [⟨"id", .never⟩, ⟨"title", .never⟩, ⟨"description", .never⟩, ⟨"difficulty", .never⟩,
    ⟨"vendor", .never⟩, ⟨"devices", .never⟩, ⟨"topology", .never⟩, ⟨"objectives", .always⟩,
    ⟨"documentation", .always⟩]

/-- Reads a definition. -/
def ofDatum? (d : Datum) : Option LabDefinition :=
  match fieldValues? fields d with
  | some [id, title, description, difficulty, vendor, devices, topology, objectives,
      documentation] => do
    let id ← required id text?
    let title ← required title text?
    let description ← required description text?
    let difficulty ← required difficulty (choice? Difficulty.ofName?)
    let vendor ← required vendor text?
    let devices ← required devices (list? Device.ofDatum?)
    let topology ← required topology (list? TopologyNode.ofDatum?)
    let objectives ← orElse objectives [] (list? text?)
    let documentation ← orElse documentation {} Documentation.ofDatum?
    some
      { id, title, description, difficulty, vendor, devices, topology, objectives,
        documentation }
  | _ => none

/-- Writes a definition. -/
def toDatum (l : LabDefinition) : Datum :=
  .record
    [("id", .text l.id), ("title", .text l.title), ("description", .text l.description),
      ("difficulty", .text l.difficulty.name), ("vendor", .text l.vendor),
      ("devices", .list (l.devices.map Device.toDatum)),
      ("topology", .list (l.topology.map TopologyNode.toDatum)),
      ("objectives", .ofTexts l.objectives), ("documentation", l.documentation.toDatum)]

end LabDefinition

namespace Lab

/-- Makes a lab of a document. -/
def ofDatum (d : Datum) : Except LabError Lab :=
  match LabDefinition.ofDatum? d with
  | some definition => ofDefinition definition
  | none => .error .invalidDefinition

/-- Makes a lab of a definition in JSON. -/
def ofJson (s : String) : Except LabError Lab :=
  match Json.read? s with
  | some d => ofDatum d
  | none => .error .invalidDefinition

end Lab

end TrainingLab
