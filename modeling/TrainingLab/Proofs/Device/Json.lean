import TrainingLab.Proofs.Device.Record
import TrainingLab.Proofs.Json.RoundTrip

/-
  Devices in JSON. Every record that is written of a device is made of texts, truth values, numbers
  of at most 32 bits, lists and records of the like, so JSON has a form for it (`Printable`), and
  the device is read from the text of its record.
-/

namespace TrainingLab

open Datum

/-! ## Documents with a form in JSON -/

namespace Datum

/-- JSON has a form for the document and all its parts. -/
abbrev Printable (d : Datum) : Prop := d.Every Json.IsPrintable

/-- JSON has a form for the values of the fields. -/
def PrintableFields (fields : List (String × Datum)) : Prop := ∀ e ∈ fields, e.2.Printable

@[simp] theorem printable_text (s : String) : (text s).Printable := .leaf trivial rfl

@[simp] theorem printable_bool (b : Bool) : (bool b).Printable := .leaf trivial rfl

theorem printable_number {n : Numeral} (h : n.Held) : (number n).Printable := .leaf h rfl

theorem printable_ofNat {n : Nat} (h : n < UInt64.size) : (ofNat n).Printable :=
  printable_number h

@[simp] theorem printable_uint16 (n : UInt16) : (ofNat n.toNat).Printable :=
  printable_ofNat (Nat.lt_trans n.toNat_lt_size (by decide))

@[simp] theorem printable_uint32 (n : UInt32) : (ofNat n.toNat).Printable :=
  printable_ofNat (Nat.lt_trans n.toNat_lt_size (by decide))

@[simp] theorem printable_record_iff (fields : List (String × Datum)) :
    (record fields).Printable ↔ PrintableFields fields := by
  refine ⟨fun h e he => h.parts e.2 (List.mem_map_of_mem he), fun h => .record rfl h⟩

@[simp] theorem printableFields_nil : PrintableFields [] := List.forall_mem_nil _

@[simp] theorem printableFields_cons (e : String × Datum) (fields : List (String × Datum)) :
    PrintableFields (e :: fields) ↔ e.2.Printable ∧ PrintableFields fields :=
  List.forall_mem_cons

@[simp] theorem printableFields_append (fields more : List (String × Datum)) :
    PrintableFields (fields ++ more) ↔ PrintableFields fields ∧ PrintableFields more :=
  List.forall_mem_append

variable {α : Type} {write : α → Datum}

theorem printable_map {l : List α} (h : ∀ a ∈ l, (write a).Printable) :
    (list (l.map write)).Printable := by
  refine .list trivial fun d hd => ?_
  obtain ⟨a, ha, rfl⟩ := List.mem_map.mp hd
  exact h a ha

@[simp] theorem printable_ofTexts (l : List String) : (ofTexts l).Printable :=
  printable_map fun s _ => printable_text s

theorem printable_ofOption (h : ∀ a, (write a).Printable) (o : Option α) :
    (ofOption write o).Printable := by
  cases o with
  | none => exact .leaf trivial rfl
  | some a => exact h a

theorem printableFields_ifPresent (name : String) (h : ∀ a, (write a).Printable) (o : Option α) :
    PrintableFields (ifPresent name write o) := by
  cases o with
  | none => exact printableFields_nil
  | some a => exact (printableFields_cons _ _).mpr ⟨h a, printableFields_nil⟩

end Datum

/-! ## Records -/

theorem Interface.printable_toDatum (i : Interface) : i.toDatum.Printable := by
  have hvlan := printableFields_ifPresent "vlan" printable_uint16 i.vlan
  have hzone := printableFields_ifPresent "zone" printable_text i.zone
  have hdescription := printableFields_ifPresent "description" printable_text i.description
  simp [toDatum, hvlan, hzone, hdescription]

theorem Route.printable_toDatum (r : Route) : r.toDatum.Printable := by
  have hinterface := printableFields_ifPresent "interface" printable_text r.interface
  simp [toDatum, hinterface]

theorem Policy.printable_toDatum (p : Policy) : p.toDatum.Printable := by
  have hpriority := printableFields_ifPresent "priority" printable_uint32 p.priority
  have hprotocol := printableFields_ifPresent "protocol"
    (fun t : Transport => printable_text t.name) p.protocol
  have hport := printableFields_ifPresent "dst_port" printable_uint16 p.port
  simp [toDatum, hpriority, hprotocol, hport]

theorem Frame.printable_stackDatum (context : List Frame) : (stackDatum context).Printable := by
  refine printable_map fun f _ => ?_
  simp [toDatum]

theorem printable_interfacesDatum (m : SortedMap String Interface) :
    (interfacesDatum m).Printable := by
  refine (printable_record_iff _).mpr fun e he => ?_
  obtain ⟨⟨_, i⟩, _, rfl⟩ := List.mem_map.mp he
  exact i.printable_toDatum

theorem printable_vlansDatum (m : SortedMap UInt16 String) : (vlansDatum m).Printable := by
  refine (printable_record_iff _).mpr fun e he => ?_
  obtain ⟨⟨_, name⟩, _, rfl⟩ := List.mem_map.mp he
  exact printable_text name

theorem printable_routes (routes : List Route) :
    (Datum.list (routes.map Route.toDatum)).Printable :=
  printable_map fun r _ => r.printable_toDatum

theorem Candidate.printable_toDatum (c : Candidate) : c.toDatum.Printable := by
  have hinterfaces := printable_interfacesDatum c.interfaces
  have hroutes := printable_ofOption printable_routes c.routes
  have hhostname := printable_ofOption printable_text c.hostname
  simp [toDatum, hinterfaces, hroutes, hhostname]

namespace Device

theorem printable_toDatum (d : Device) : d.toDatum.Printable := by
  have hinterfaces := printable_interfacesDatum d.interfaces
  have hroutes := printable_routes d.routes
  have hpolicies : (Datum.list (d.policies.map Policy.toDatum)).Printable :=
    printable_map fun p _ => p.printable_toDatum
  have hvlans := printable_vlansDatum d.vlans
  have hcandidate := printableFields_ifPresent "candidate" Candidate.printable_toDatum d.candidate
  have hcontext := Frame.printable_stackDatum d.context
  simp [toDatum, identityFields, configurationFields, consoleFields, hinterfaces, hroutes,
    hpolicies, hvlans, hcandidate, hcontext]

/-- A device is read from its record in JSON. -/
theorem read?_print (d : Device) : (Json.read? (Json.print d.toDatum)).bind ofDatum? = some d := by
  rw [Json.read?_print d.printable_toDatum, Option.bind_some, ofDatum?_toDatum]

end Device

end TrainingLab
