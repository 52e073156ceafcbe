import TrainingLab.SortedMap
import TrainingLab.Device.Vendor
import TrainingLab.Device.Interface
import TrainingLab.Device.Route
import TrainingLab.Device.Policy
import TrainingLab.Device.Console

/-
  A simulated network element: its live configuration, the state of its console, the changes
  staged for a commit, and the scrollback of the console. Devices are values; a command or an edit
  makes a new one.
-/

namespace TrainingLab

/-- The id of a device inside a lab. -/
abbrev DeviceId := String

/-- Staged changes: the full record of every interface touched, the names of the interfaces
    removed, and the routes and hostname that replace the live ones, if any do. -/
structure Candidate where
  interfaces : SortedMap String Interface := SortedMap.empty
  removed : SortedMap String Unit := SortedMap.empty
  routes : Option (List Route) := none
  hostname : Option String := none
deriving DecidableEq

/-- Nothing is staged. -/
def Candidate.isEmpty (c : Candidate) : Bool :=
  c.interfaces.isEmpty && c.removed.isEmpty && c.routes.isNone && c.hostname.isNone

/-- One device of a lab. -/
structure Device where
  id : DeviceId
  name : String
  kind : DeviceClass
  vendor : Vendor
  interfaces : SortedMap String Interface := SortedMap.empty
  routes : List Route := []
  policies : List Policy := []
  vlans : SortedMap UInt16 String := SortedMap.empty
  mode : Mode := .user
  /-- The objects being edited, innermost first. -/
  context : List Frame := []
  candidate : Option Candidate := none
  history : List String := []
deriving DecidableEq

/-- The devices of a lab by their ids. -/
abbrev Inventory := SortedMap DeviceId Device

namespace Device

/-- The command line of the device. -/
def family (d : Device) : Family := d.vendor.family

/-! ## Console -/

/-- Prints a text: one entry of the history for each of its lines. -/
def log (d : Device) (text : String) : Device := { d with history := d.history ++ logLines text }

/-- Prints the texts one after the other. -/
def logAll (d : Device) (texts : List String) : Device := texts.foldl log d

/-- Switches to a mode. -/
def enter (d : Device) (mode : Mode) : Device := { d with mode }

/-- Replaces the stack of edited objects. -/
def within (d : Device) (context : List Frame) : Device := { d with context }

/-- Starts to edit an object inside the present one. -/
def push (d : Device) (kind : FrameKind) (name : String) : Device :=
  { d with context := ⟨kind, name⟩ :: d.context }

/-- Leaves the innermost object. -/
def pop (d : Device) : Device := { d with context := d.context.tail }

/-- The innermost object. -/
def frame? (d : Device) : Option Frame := d.context.head?

/-- The name of the innermost object of a kind. -/
def frameName? (d : Device) (kind : FrameKind) : Option String :=
  (d.context.find? fun f => f.kind == kind).map Frame.name

/-! ## Live configuration -/

/-- Changes an interface; one that does not exist starts unconfigured. -/
def editInterface (d : Device) (name : String) (f : Interface → Interface) : Device :=
  { d with interfaces := d.interfaces.insert name (f ((d.interfaces.find? name).getD {})) }

/-- The first route that matches every destination. -/
def defaultRoute? (d : Device) : Option Route := d.routes.find? Route.isDefault

end Device

end TrainingLab
