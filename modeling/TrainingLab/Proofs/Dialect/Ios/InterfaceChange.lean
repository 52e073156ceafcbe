import TrainingLab.Proofs.Device.InterfaceChange
import TrainingLab.Proofs.Dialect.Ios.Reading

/-
  Changes of an interface on the console of IOS: the line that opens the interface, and one
  statement.

  Proved:
  * `leads_statement`: what the statement of a change does to the interface that is open.
  * `leads_change`: what both lines come to.
-/

namespace TrainingLab.Ios

open Grammar Device

/-- The statements for a change of the open interface. The mask of an address is a dotted one. -/
inductive Statement : InterfaceChange → String → Prop
  | enable : Statement (.up true) "no shutdown"
  | disable : Statement (.up false) "shutdown"
  | zone {zone : String} : Statement (.zone (some zone)) ("zone-member security " ++ zone)
  | noZone : Statement (.zone none) "no zone-member security"
  | description {text : String} : Statement (.description (some text)) ("description " ++ text)
  | noDescription : Statement (.description none) "no description"
  | address {ip mask : String} (hdotted : Text.hasChar '.' mask = true) :
      Statement (.address ip mask) ("ip address " ++ ip ++ " " ++ mask)

section Statement

variable {d : Device} {name : String} {i : Interface}


theorem leads_statement (hfamily : d.family = .cisco) {c : InterfaceChange} {line : String}
    (h : Statement c line) (hvalid : c.Valid) :
    Leads [line] (inInterface d name i) (inInterface d name (c.apply i)) := by
  cases h with
  | enable =>
    have hwords : Text.words "no shutdown" = ["no", "shutdown"] := by decide
    exact leads_setInterface hfamily hwords (by decide) (by decide) rfl
      (fun i => i.setUp true) rfl
  | disable => exact leads_shutdown hfamily (by decide)
  | @zone zone =>
    have hzone : Text.IsWord zone := (hvalid zone rfl).word
    exact leads_setZone hfamily
      (Text.words_append_word (c := ' ') (by decide) (by decide) hzone.1 hzone.2)
  | noZone =>
    have hwords : Text.words "no zone-member security" = ["no", "zone-member", "security"] := by
      decide
    have hdispatch : dispatch .configInterface [⟨.interface, name⟩]
        ["no", "zone-member", "security"] table = .done (.command (.setZone none)) := by
      rw [dispatch_anywhere table_anywhere []]
      decide
    exact leads_setInterface hfamily hwords (by decide) (by decide) hdispatch
      (fun i => i.setZone none) rfl
  | @description text =>
    obtain ⟨hnormal, hne, _⟩ := hvalid text rfl
    exact leads_setDescription hfamily
      (Text.words_append_of_blank (c := ' ') (by decide) (by decide) text) hnormal hne
  | noDescription =>
    have hwords : Text.words "no description" = ["no", "description"] := by decide
    exact leads_setInterface hfamily hwords (by decide) (by decide) rfl
      (fun i => i.setDescription none) rfl
  | @address ip mask hdotted =>
    obtain ⟨hip, hunbroken, hmask⟩ := hvalid
    have haccepts : ArgumentKind.mask.accepts mask = true := by
      rw [ArgumentKind.accepts, hdotted, hmask, Bool.and_self]
    obtain ⟨net, rfl, rfl⟩ := exists_cidr hip hunbroken haccepts
    exact leads_setAddress hfamily (words_network (by decide) net)

/-- The change, from any configuration mode. -/
theorem leads_change (hfamily : d.family = .cisco) (hmode : d.mode ∈ configModes)
    (hname : Text.IsWord name) {c : InterfaceChange} {line : String} (h : Statement c line)
    (hvalid : c.Valid) :
    ∃ e, Leads ["interface " ++ name, line] d e ∧
      e.config = (d.amend name c.apply).config := by
  have hlive : d.family ≠ .juniper := by
    rw [hfamily]
    decide
  refine ⟨_, (leads_enterInterface hfamily hmode hname).append (leads_statement hfamily h hvalid),
    ?_⟩
  rw [amend_of_live hlive]
  rfl

end Statement

end TrainingLab.Ios
