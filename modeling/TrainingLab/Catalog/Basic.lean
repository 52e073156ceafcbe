import TrainingLab.Catalog.InstanceA
import TrainingLab.Catalog.InstanceB
import TrainingLab.Catalog.InstanceC
import TrainingLab.Catalog.InstanceD
import TrainingLab.Catalog.InstanceE
import TrainingLab.Lab.Definition

/-
  The catalog of labs that come with the program.
-/

namespace TrainingLab.Catalog

/-- The definitions, in order. -/
def definitions : List LabDefinition := [instanceA, instanceB, instanceC, instanceD, instanceE]

/-- The ids of the labs, in order. -/
def ids : List String := definitions.map LabDefinition.id

/-- All labs, in order. -/
def labs : Except LabError (List Lab) := definitions.mapM Lab.ofDefinition

/-- The lab of an id, as it is at its start. -/
def lab (id : String) : Except LabError Lab :=
  match definitions.find? fun d => d.id == id with
  | some d => Lab.ofDefinition d
  | none => .error (.labNotFound id)

end TrainingLab.Catalog
