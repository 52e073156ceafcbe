import TrainingLab.Device.GuiEdit
import TrainingLab.Proofs.Device.Views
import TrainingLab.Proofs.Network.Notation
import TrainingLab.Proofs.SortedMap
import TrainingLab.Proofs.Text.Quotes

/-
  Changes of one interface that can be made in the graphical view as well as on a console, and what
  the view makes of them. An edit goes to the live interfaces or, where a family has commits, to the
  staged ones; apart from the line that it leaves on the console it does nothing else (`amend`). A
  new address takes two edits, and the second one finds what the first one has left.

  Proved:
  * `amend_amend`: two changes of one interface are one.
  * `config_applyEdit`, `config_applyEdits`: what edits of an interface that is there come to.
-/

namespace TrainingLab

/-- A change of one interface. -/
inductive InterfaceChange
  | up (up : Bool)
  | zone (name : Option String)
  | description (text : Option String)
  | address (ip mask : String)
deriving DecidableEq

/-- One word, without a quote at an end. -/
structure Text.IsPlain (s : String) : Prop where
  word : IsWord s
  bare : Bare s

instance (s : String) : Decidable (Text.IsPlain s) :=
  decidable_of_iff (Text.IsWord s ∧ Text.Bare s) ⟨fun h => ⟨h.1, h.2⟩, fun h => ⟨h.word, h.bare⟩⟩

/-- An address and a mask with a slash between them are one word. -/
theorem Network.words_cidr {start : String} (hlast : start.toList.getLast? = some ' ')
    (a : Address) {mask : String} (hmask : Text.Unbroken mask) :
    Text.words (start ++ a.toText ++ "/" ++ mask) =
      Text.words start ++ [a.toText ++ "/" ++ mask] := by
  have hunbroken : Text.Unbroken (a.toText ++ "/" ++ mask) :=
    (a.unbroken_toText.append (by decide)).append hmask
  have hne : a.toText ++ "/" ++ mask ≠ "" := by simp
  rw [← Text.words_append_word hlast (by decide) hunbroken hne, String.append_assoc,
    String.append_assoc, String.append_assoc]

theorem Interface.setCidr_address (i : Interface) (a : Network.Address) (mask : String) :
    i.setCidr (a.toText ++ "/" ++ mask) = i.setAddress a.toText mask := by
  rw [setCidr, Network.splitFirst?_address]

namespace InterfaceChange

/-- The edits that make the change in the graphical view. -/
def edits : InterfaceChange → List InterfaceEdit
  | up isUp => [.up isUp]
  | zone name => [.zone name]
  | description text => [.description text]
  | address ip mask => [.ip ip, .mask mask]

/-- The interface after the edits. -/
def apply (c : InterfaceChange) (i : Interface) : Interface :=
  c.edits.foldl (fun i e => e.apply i) i

/-- The zone is a plain word, the description a plain text with single spaces between its words, and
    the address has a mask or a length with it. -/
def Valid : InterfaceChange → Prop
  | up _ => True
  | zone name => ∀ z ∈ name, Text.IsPlain z
  | description text => ∀ t ∈ text, Text.IsNormal t ∧ t ≠ "" ∧ Text.Bare t
  | address ip mask =>
    (Network.Address.ofText? ip).isSome = true ∧ Text.Unbroken mask ∧
      (Network.readMask? mask).isSome = true

instance (c : InterfaceChange) : Decidable c.Valid := by
  unfold Valid
  cases c <;> infer_instance

end InterfaceChange

namespace Device

/-! ## Where the edits of a family go -/

/-- Changes an interface: the staged one if the family has commits, else the live one. -/
def amend (d : Device) (name : String) (f : Interface → Interface) : Device :=
  if d.stagesEdits then d.stageInterface name f else d.editInterface name f

section Amend

variable (d : Device) (name : String) (f g : Interface → Interface)

theorem stagesEdits_amend : (d.amend name f).stagesEdits = d.stagesEdits := by
  unfold amend
  split <;> rfl

theorem stageInterface_stageInterface :
    (d.stageInterface name f).stageInterface name g = d.stageInterface name fun i => g (f i) := by
  simp only [stageInterface, staging, Option.getD_some, SortedMap.find?_insert, if_true,
    SortedMap.insert_insert, SortedMap.erase_erase]

theorem editInterface_editInterface :
    (d.editInterface name f).editInterface name g = d.editInterface name fun i => g (f i) := by
  simp only [editInterface, SortedMap.find?_insert, if_true, Option.getD_some,
    SortedMap.insert_insert]

/-- One change after another one is a change. -/
theorem amend_amend : (d.amend name f).amend name g = d.amend name fun i => g (f i) := by
  rw [amend, stagesEdits_amend]
  unfold amend
  split
  next => exact d.stageInterface_stageInterface name f g
  next => exact d.editInterface_editInterface name f g

/-- The interface is there afterwards. -/
theorem isSome_editedInterface?_amend :
    ((d.amend name f).editedInterface? name).isSome = true := by
  rw [editedInterface?, stagesEdits_amend]
  unfold amend
  split
  next =>
    simp only [stageInterface, stagedInterface?, SortedMap.contains_erase, if_true,
      Bool.false_eq_true, if_false, SortedMap.find?_insert, Option.some_or, Option.isSome_some]
  next => simp only [editInterface, SortedMap.find?_insert, if_true, Option.isSome_some]

/-- The console does not matter. -/
theorem config_amend_config : (d.config.amend name f).config = (d.amend name f).config := by
  have hstages : d.config.stagesEdits = d.stagesEdits := rfl
  unfold amend
  rw [hstages]
  split <;> rfl

end Amend

variable {d : Device} {name : String}

theorem config_amend {e : Device} (h : d.config = e.config) (f : Interface → Interface) :
    (d.amend name f).config = (e.amend name f).config :=
  eq_of_config (fun x => (x.amend name f).config) (fun x => x.config_amend_config name f) h

/-- Without commits, a change is one of the live interface. -/
theorem amend_of_live (h : d.family ≠ .juniper) (f : Interface → Interface) :
    d.amend name f = d.editInterface name f := by
  rw [amend, stagesEdits, beq_false_of_ne h, if_neg Bool.false_ne_true]

theorem amend_of_staged (h : d.family = .juniper) (f : Interface → Interface) :
    d.amend name f = d.stageInterface name f := by
  rw [amend, stagesEdits, h]
  rfl

/-! ## Edits -/

/-- The device after edits of one interface in the graphical view. -/
def applyEdits (d : Device) (name : String) (edits : List InterfaceEdit) : Device :=
  edits.foldl (fun d e => d.applyEdit (.interface name e)) d

/-- An edit of an interface that is there changes it and leaves a line on the console. -/
theorem config_applyEdit (h : (d.editedInterface? name).isSome = true) (e : InterfaceEdit) :
    (d.applyEdit (.interface name e)).config = (d.amend name e.apply).config := by
  obtain ⟨i, hi⟩ := Option.isSome_iff_exists.mp h
  simp only [applyEdit, applyInterfaceEdit, hi, config_log]
  rfl

/-- Edits of an interface that is there come to one change of it. -/
theorem config_applyEdits (h : (d.editedInterface? name).isSome = true) (e : InterfaceEdit)
    (rest : List InterfaceEdit) :
    (d.applyEdits name (e :: rest)).config =
      (d.amend name fun i => (e :: rest).foldl (fun i e => e.apply i) i).config := by
  induction rest generalizing d e with
  | nil => exact config_applyEdit h e
  | cons next rest ih =>
    have hfirst := config_applyEdit h e
    have hthere : ((d.applyEdit (.interface name e)).editedInterface? name).isSome = true := by
      rw [eq_of_config (fun x => x.editedInterface? name) (fun _ => rfl) hfirst]
      exact d.isSome_editedInterface?_amend name e.apply
    have hrest := ih hthere next
    rw [config_amend hfirst, amend_amend] at hrest
    exact hrest

/-- What the graphical view makes of a change. -/
theorem config_edits (h : (d.editedInterface? name).isSome = true) (c : InterfaceChange) :
    (d.applyEdits name c.edits).config = (d.amend name c.apply).config := by
  cases c with
  | up | zone | description | address => exact config_applyEdits h _ _

end Device

end TrainingLab
