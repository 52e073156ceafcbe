import TrainingLab.Dialect.Cloud
import TrainingLab.Dialect.FortiOs.Table
import TrainingLab.Dialect.Ios.Table
import TrainingLab.Dialect.Junos.Table
import TrainingLab.Dialect.PanOs.Table
import TrainingLab.Reference

/-
  The console of a device: its family's dialect decides what a line does.
-/

namespace TrainingLab

namespace Family

/-- The modes that a console of the family can be in. -/
def modes : Family → List Mode
  | cisco => Ios.dialect.modes
  | juniper => Junos.dialect.modes
  | fortinet => FortiOs.dialect.modes
  | paloAlto => PanOs.dialect.modes
  | cloud => Cloud.dialect.modes

/-- The answer to a line that no rule takes, in a mode. -/
def unknownReply (f : Family) (mode : Mode) : String :=
  match f with
  | cisco => Ios.dialect.unknown mode
  | juniper => Junos.dialect.unknown mode
  | fortinet => FortiOs.dialect.unknown mode
  | paloAlto => PanOs.dialect.unknown mode
  | cloud => Cloud.dialect.unknown mode

/-- The answer to a line that expects more. -/
def incompleteReply : Family → String
  | cisco => Ios.dialect.incomplete
  | juniper => Junos.dialect.incomplete
  | fortinet => FortiOs.dialect.incomplete
  | paloAlto => PanOs.dialect.incomplete
  | cloud => Cloud.dialect.incomplete

end Family

/-- Takes a line from the console of a device in a lab. -/
def Device.interpret (devices : Inventory) (line : String) (d : Device) : Device :=
  let help := (Reference.ofFamily d.family).helpLines d.vendor
  match d.family with
  | .cisco => Ios.dialect.interpret help devices line d
  | .juniper => Junos.dialect.interpret help devices line d
  | .fortinet => FortiOs.dialect.interpret help devices line d
  | .paloAlto => PanOs.dialect.interpret help devices line d
  | .cloud => Cloud.dialect.interpret help devices line d

end TrainingLab
