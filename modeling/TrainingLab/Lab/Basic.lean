import TrainingLab.Datum.Basic
import TrainingLab.Device.Basic
import TrainingLab.Text.Quoted

/-
  Labs: devices in a topology, with the texts for the student. A definition is what is written
  down; a lab is what runs, with its devices by their ids.
-/

namespace TrainingLab

/-- How hard a lab is. -/
inductive Difficulty
  | beginner
  | intermediate
  | advanced
  | expert
deriving DecidableEq, Repr

namespace Difficulty

/-- All degrees. -/
def all : List Difficulty := [beginner, intermediate, advanced, expert]

/-- The name of the degree. -/
def name : Difficulty → String
  | beginner => "Beginner"
  | intermediate => "Intermediate"
  | advanced => "Advanced"
  | expert => "Expert"

end Difficulty

/-- A device in the drawing of a topology. Nothing is computed from its coordinates. -/
structure TopologyNode where
  deviceId : DeviceId
  label : String
  icon : DeviceClass
  x : Numeral
  y : Numeral
deriving DecidableEq, Repr

/-- The texts of the documentation view. -/
structure Documentation where
  initialConfig : String := ""
  packetFlow : String := ""
deriving DecidableEq, Repr

/-- A lab as it is written down. The topology is in the order of a packet's path. -/
structure LabDefinition where
  id : String
  title : String
  description : String
  difficulty : Difficulty
  vendor : String
  devices : List Device
  topology : List TopologyNode
  objectives : List String := []
  documentation : Documentation := {}
deriving DecidableEq

/-- A running lab. -/
structure Lab where
  id : String
  title : String
  description : String
  difficulty : Difficulty
  vendor : String
  devices : Inventory
  topology : List TopologyNode
  objectives : List String
  documentation : Documentation
deriving DecidableEq

/-- Why something about a lab fails. -/
inductive LabError
  | deviceNotFound (id : DeviceId)
  | danglingTopologyNode (id : DeviceId)
  | duplicateDevice (id : DeviceId)
  | labNotFound (id : String)
  | unspecifiedProtocol (name : String)
  | invalidDefinition
deriving DecidableEq, Repr

/-- The message of the error. -/
def LabError.message : LabError → String
  | deviceNotFound id => "Device was not found in the lab: " ++ id
  | danglingTopologyNode id => "Topology node references an unknown device: " ++ id
  | duplicateDevice id => "Device id is used twice: " ++ id
  | labNotFound id => "Lab was not found in the catalog: " ++ id
  | unspecifiedProtocol name => "Protocol is not specified: " ++ Text.quoted name
  | invalidDefinition => "Invalid lab definition"

namespace Lab

/-- A device of the lab. -/
def device? (l : Lab) (id : DeviceId) : Except LabError Device :=
  match l.devices.find? id with
  | some d => .ok d
  | none => .error (.deviceNotFound id)

/-- The ids of the topology, in order. -/
def path (l : Lab) : List DeviceId := l.topology.map TopologyNode.deviceId

/-- The hostname of a device, or a question mark for an unknown one. -/
def hostname (l : Lab) (id : DeviceId) : String :=
  match l.devices.find? id with
  | some d => d.name
  | none => "?"

/-- The hostnames of the topology in one line. -/
def pathLine (l : Lab) : String := Text.joinWith " -> " (l.path.map l.hostname)

end Lab

end TrainingLab
