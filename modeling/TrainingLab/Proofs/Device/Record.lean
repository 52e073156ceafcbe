import TrainingLab.Device.Record
import TrainingLab.Proofs.Datum.Codec
import TrainingLab.Proofs.SortedMap
import TrainingLab.Proofs.Text.Decimal

/-
  A device is read as the one that was written. For every record it is listed once which of its
  fields are written with which values; that they are read again under their names is a fact about
  all records (`Written.fieldValues?`).
-/

namespace TrainingLab

open Datum

/-! ## Names -/

theorem Vendor.ofName?_name (v : Vendor) : ofName? v.name = some v := by
  cases v <;> rfl

theorem DeviceClass.ofName?_name (c : DeviceClass) : ofName? c.name = some c := by
  cases c <;> rfl

theorem Mode.ofName?_name (m : Mode) : ofName? m.name = some m := by
  cases m <;> rfl

theorem FrameKind.ofName?_name (k : FrameKind) : ofName? k.name = some k := by
  cases k <;> rfl

/-! ## Parts of a device -/

theorem Interface.ofDatum?_toDatum (i : Interface) : ofDatum? i.toDatum = some i := by
  have hwritten : Written fields
      [some (.text i.ip), some (.text i.mask), some (.bool i.up),
        i.vlan.map fun n => ofNat n.toNat, i.zone.map text, i.description.map text] _ :=
    .present _ _ (.present _ _ (.present _ _ (.optional _ (by decide) _ (.optional _ (by decide) _
      (.optional _ (by decide) _ .nil)))))
  have hvalues : fieldValues? fields i.toDatum = some _ :=
    hwritten.fieldValues? (by decide) (.of_eq (by simp)) true
  rw [ofDatum?, hvalues]
  simp only [omissible_uint16, omissible_text]
  rfl

theorem Route.ofDatum?_toDatum (r : Route) : ofDatum? r.toDatum = some r := by
  have hwritten : Written fields
      [some (.text r.destination), some (.text r.nextHop), r.interface.map text] _ :=
    .present _ _ (.present _ _ (.optional _ (by decide) _ .nil))
  have hvalues : fieldValues? fields r.toDatum = some _ :=
    hwritten.fieldValues? (by decide) (.of_eq (by simp)) true
  rw [ofDatum?, hvalues]
  simp only [omissible_text]
  rfl

namespace Policy

theorem readAction?_name (a : PolicyAction) : readAction? (.text a.name) = some a := by
  cases a <;> rfl

theorem readTransport?_name (t : Transport) : readTransport? (.text t.name) = some t := by
  cases t <;> rfl

theorem omissible_transport (o : Option Transport) :
    omissible (o.map fun t => .text t.name) readTransport? = some o := by
  refine omissible_map (fun _ hnull => ?_) readTransport?_name o
  cases hnull

theorem ofDatum?_toDatum (p : Policy) : ofDatum? p.toDatum = some p := by
  have hwritten : Written fields
      [some (ofNat p.id.toNat), some (.text p.name), some (.text p.fromZone),
        some (.text p.toZone), some (.text p.action.name), p.priority.map fun n => ofNat n.toNat,
        p.protocol.map fun t => .text t.name, p.port.map fun n => ofNat n.toNat,
        some (.text p.source), some (.text p.destination)] _ :=
    .present _ _ (.present _ _ (.present _ _ (.present _ _ (.present _ _
      (.optional _ (by decide) _ (.optional _ (by decide) _ (.optional _ (by decide) _
        (.present _ _ (.present _ _ .nil)))))))))
  have hvalues : fieldValues? fields p.toDatum = some _ :=
    hwritten.fieldValues? (by decide) (.of_eq (by simp)) true
  rw [ofDatum?, hvalues]
  have haction : required (some (.text p.action.name)) readAction? = some p.action :=
    readAction?_name p.action
  simp only [required_uint32, haction, omissible_uint32, omissible_transport, omissible_uint16]
  rfl

end Policy

namespace Frame

theorem ofDatum?_toDatum (f : Frame) : ofDatum? f.toDatum = some f := by
  have hwritten : Written [⟨"kind", .never⟩, ⟨"name", .never⟩]
      [some (.text f.kind.name), some (.text f.name)] _ :=
    .present _ _ (.present _ _ .nil)
  have hvalues : fieldValues? _ f.toDatum = some _ :=
    hwritten.fieldValues? (by decide) (.refl _) true
  rw [ofDatum?, hvalues]
  simp only [required, Option.bind_some, choice?, FrameKind.ofName?_name]
  rfl

theorem readStack?_stackDatum (context : List Frame) :
    readStack? (stackDatum context) = some context := by
  rw [readStack?, stackDatum, list?_map fun f _ => ofDatum?_toDatum f, Option.map_some,
    List.reverse_reverse]

end Frame

/-! ## Maps -/

/-- The entries of a map make the map. -/
theorem SortedMap.ofList_entries {κ α : Type} [Ord κ] [Std.LawfulEqOrd κ] [Std.TransOrd κ]
    [DecidableEq κ] (m : SortedMap κ α) : SortedMap.ofList m.entries = m :=
  insertAll_entries m

theorem readInterfaces?_interfacesDatum (m : SortedMap String Interface) :
    readInterfaces? (interfacesDatum m) = some m := by
  rw [readInterfaces?, interfacesDatum, entries?_map Interface.ofDatum?_toDatum, Option.map_some,
    SortedMap.ofList_entries]

/-- A VLAN id is written without a plus sign and without a leading zero. -/
theorem readVlanId?_toString (id : UInt16) : readVlanId? (toString id) = some id := by
  have hchars : (toString id).toList = Nat.toDigits 10 id.toNat := Text.toList_toString id.toNat
  have hplus : (toString id).toList.head? ≠ some '+' := by
    intro hhead
    rw [hchars] at hhead
    have hdigit := Text.isDigit_of_mem_toDigits (List.mem_of_mem_head? hhead)
    exact absurd hdigit (by decide)
  have hzero : ¬ ((toString id).toList.length > 1 ∧ (toString id).toList.head? = some '0') := by
    rintro ⟨hlength, hhead⟩
    rw [hchars] at hlength hhead
    exact Text.head?_toDigits hlength hhead
  rw [readVlanId?, if_neg (not_or.mpr ⟨hplus, hzero⟩), Text.readUInt16?_toString]

theorem readVlans?_vlansDatum (m : SortedMap UInt16 String) :
    readVlans? (vlansDatum m) = some m := by
  rw [readVlans?, vlansDatum, numbered?_map readVlanId?_toString, Option.map_some,
    SortedMap.ofList_entries]
  exact fun _ => rfl

/-! ## Devices -/

namespace Candidate

theorem readNames?_keys (m : SortedMap String Unit) : readNames? (.ofTexts m.keys) = some m := by
  have hentries : (m.keys.map fun n => (n, ())) = m.entries := by
    rw [SortedMap.keys, List.map_map]
    exact List.map_id _
  rw [readNames?, list?_ofTexts, Option.map_some, hentries, SortedMap.ofList_entries]

theorem ofDatum?_toDatum (c : Candidate) : ofDatum? c.toDatum = some c := by
  have hwritten : Written fields
      [some (interfacesDatum c.interfaces), some (.ofTexts c.removed.keys),
        some (.ofOption (fun routes => .list (routes.map Route.toDatum)) c.routes),
        some (.ofOption .text c.hostname)] _ :=
    .present _ _ (.present _ _ (.present _ _ (.present _ _ .nil)))
  have hvalues : fieldValues? fields c.toDatum = some _ :=
    hwritten.fieldValues? (by decide) (.refl _) true
  have hroutes : omissible (some (.ofOption (fun routes => .list (routes.map Route.toDatum))
      c.routes)) (list? Route.ofDatum?) = some c.routes := by
    refine omissible_ofOption (fun _ hnull => ?_)
      (fun routes => list?_map fun r _ => r.ofDatum?_toDatum) c.routes
    cases hnull
  have hhostname : omissible (some (.ofOption .text c.hostname)) text? = some c.hostname := by
    cases c.hostname <;> rfl
  rw [ofDatum?, hvalues]
  simp only [orElse, readInterfaces?_interfacesDatum, readNames?_keys, hroutes, hhostname]
  rfl

end Candidate

namespace Device

theorem ofDatum?_toDatum (d : Device) : ofDatum? d.toDatum = some d := by
  have hwritten : Written fields
      [some (.text d.id), some (.text d.name), some (.text d.kind.name),
        some (.text d.vendor.name), some (interfacesDatum d.interfaces),
        some (.list (d.routes.map Route.toDatum)), some (.list (d.policies.map Policy.toDatum)),
        some (vlansDatum d.vlans), some (.text d.mode.name), some (Frame.stackDatum d.context),
        d.candidate.map Candidate.toDatum, some (.ofTexts d.history)] _ :=
    .present _ _ (.present _ _ (.present _ _ (.present _ _ (.present _ _ (.present _ _
      (.present _ _ (.present _ _ (.present _ _ (.present _ _ (.optional _ (by decide) _
        (.present _ _ .nil)))))))))))
  -- the name is written behind the vendor, and the candidate before the state of the console
  have hvalues : fieldValues? fields d.toDatum = some _ :=
    hwritten.fieldValues? (by decide) (by
      simp only [identityFields, configurationFields, consoleFields, List.append_assoc,
        List.cons_append, List.nil_append]
      refine .cons _ (.trans (.cons _ (.swap _ _ _)) (.trans (.swap _ _ _) (.cons _ ?_)))
      refine .cons _ (.cons _ (.cons _ (.cons _ (.cons _ (.cons _ ?_)))))
      exact List.perm_append_comm_assoc _ [_, _] _) true
  have hkind : required (some (.text d.kind.name)) (choice? DeviceClass.ofName?) = some d.kind :=
    d.kind.ofName?_name
  have hvendor : required (some (.text d.vendor.name)) (choice? Vendor.ofName?) = some d.vendor :=
    d.vendor.ofName?_name
  have hroutes : list? Route.ofDatum? (.list (d.routes.map Route.toDatum)) = some d.routes :=
    list?_map fun r _ => r.ofDatum?_toDatum
  have hpolicies : list? Policy.ofDatum? (.list (d.policies.map Policy.toDatum)) =
      some d.policies :=
    list?_map fun p _ => p.ofDatum?_toDatum
  have hmode : choice? Mode.ofName? (.text d.mode.name) = some d.mode := d.mode.ofName?_name
  have hcandidate : omissible (d.candidate.map Candidate.toDatum) Candidate.ofDatum? =
      some d.candidate := by
    refine omissible_map (fun _ hnull => ?_) Candidate.ofDatum?_toDatum d.candidate
    cases hnull
  rw [ofDatum?, hvalues]
  simp only [orElse, hkind, hvendor, readInterfaces?_interfacesDatum, hroutes, hpolicies,
    readVlans?_vlansDatum, hmode, Frame.readStack?_stackDatum, hcandidate, list?_ofTexts]
  rfl

end Device

end TrainingLab
