import TrainingLab.Device.Staging

/-
  Edits made in the graphical view of a device. They go through the settings of an interface as
  commands do, and a family with commits stages them. Every edit leaves one line on the console.
-/

namespace TrainingLab

/-- A change of one field of an interface. -/
inductive InterfaceEdit
  | ip (address : String)
  | mask (text : String)
  | up (up : Bool)
  | toggle
  | zone (name : Option String)
  | description (text : Option String)
deriving DecidableEq, Repr

namespace InterfaceEdit

/-- The interface after the change. -/
def apply (e : InterfaceEdit) (i : Interface) : Interface :=
  match e with
  | ip address => { i with ip := address }
  | mask text => { i with mask := text }
  | up isUp => i.setUp isUp
  | toggle => i.setUp (!i.up)
  | zone name => i.setZone name
  | description text => i.setDescription text

/-- The line about a change of the state. -/
def stateMessage (name : String) (up : Bool) : String :=
  "GUI: " ++ (if up then "Enabled" else "Disabled") ++ " " ++ name

/-- The line about the change, given the interface after it. -/
def message (e : InterfaceEdit) (name : String) (after : Interface) : String :=
  match e with
  | ip address => "GUI: Changed " ++ name ++ " IP to " ++ address
  | mask text => "GUI: Changed " ++ name ++ " mask to " ++ text
  | up isUp => stateMessage name isUp
  | toggle => stateMessage name after.up
  | zone _ =>
    match after.zone with
    | some z => "GUI: Set " ++ name ++ " zone to " ++ z
    | none => "GUI: Cleared " ++ name ++ " zone"
  | description _ => "GUI: Changed " ++ name ++ " description"

end InterfaceEdit

/-- An edit of a device. -/
inductive GuiEdit
  | interface (name : String) (edit : InterfaceEdit)
  | commit
deriving DecidableEq, Repr

namespace Device

/-- Edits are staged until a commit. -/
def stagesEdits (d : Device) : Bool := d.family == .juniper

/-- The interface that an edit sees. -/
def editedInterface? (d : Device) (name : String) : Option Interface :=
  if d.stagesEdits then d.stagedInterface? name else d.interfaces.find? name

/-- Changes an interface that exists; any other is reported as missing. -/
def applyInterfaceEdit (d : Device) (name : String) (e : InterfaceEdit) : Device :=
  match d.editedInterface? name with
  | none => d.log ("GUI: Interface " ++ name ++ " not found")
  | some i =>
    let edited :=
      if d.stagesEdits then d.stageInterface name e.apply else d.editInterface name e.apply
    edited.log (e.message name (e.apply i))

/-- Applies an edit. -/
def applyEdit (d : Device) : GuiEdit → Device
  | .interface name e => d.applyInterfaceEdit name e
  | .commit =>
    let (after, changed) := d.commit
    after.log (if changed then "GUI: Commit Successful" else "GUI: No changes to commit")

end Device

end TrainingLab
