import TrainingLab.Device.GuiEdit
import TrainingLab.Device.Neighbor
import TrainingLab.Dialect.Console
import TrainingLab.Lab.Basic

/-
  What can be done in a running lab. An operation names a device and fails for an unknown one;
  it changes that device and nothing else.
-/

namespace TrainingLab.Lab

/-- Puts a device into the place of the one with its id, which has to be there. -/
def replace (l : Lab) (d : Device) : Except LabError Lab :=
  if l.devices.contains d.id then .ok { l with devices := l.devices.insert d.id d }
  else .error (.deviceNotFound d.id)

/-- Changes a device. -/
def update (l : Lab) (id : DeviceId) (f : Device → Device) : Except LabError Lab :=
  (l.device? id).bind fun d => l.replace (f d)

/-- Sends a line to the console of a device. -/
def execute (l : Lab) (id : DeviceId) (line : String) : Except LabError Lab :=
  l.update id fun d => d.interpret l.devices line

/-- Applies an edit to a device. -/
def applyEdit (l : Lab) (id : DeviceId) (e : GuiEdit) : Except LabError Lab :=
  l.update id fun d => d.applyEdit e

/-- Puts the console of a device into a state. -/
def setConsole (l : Lab) (id : DeviceId) (mode : Mode) (context : List Frame) :
    Except LabError Lab :=
  l.update id fun d => (d.enter mode).within context

/-- Completes the last word of a line for a device. -/
def complete (l : Lab) (id : DeviceId) (line : String) : Except LabError String :=
  (l.device? id).map fun d => (Reference.ofFamily d.family).complete line

/-- The prompt of a device. -/
def prompt (l : Lab) (id : DeviceId) : Except LabError String := (l.device? id).map Device.prompt

/-- The neighbor table of a device. -/
def neighbors (l : Lab) (id : DeviceId) (table : NeighborTable) : Except LabError (List String) :=
  (l.device? id).map fun d => d.neighborRows l.devices table

end TrainingLab.Lab
