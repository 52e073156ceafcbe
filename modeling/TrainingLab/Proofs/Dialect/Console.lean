import TrainingLab.Device.GuiEdit
import TrainingLab.Dialect.Console
import TrainingLab.Proofs.Dialect.Basic
import TrainingLab.Proofs.Dialect.FortiOs.Command
import TrainingLab.Proofs.Dialect.Ios.Command
import TrainingLab.Proofs.Dialect.Junos.Command
import TrainingLab.Proofs.Dialect.PanOs.Command

/-
  What can be sent to a device is a line on its console or an edit in its graphical view. Both look
  at the history, and at the other devices of the lab, only to print (`sameEffect_apply`). For
  lines, the prompt, the echo and the dispatch need neither, so this comes down to the commands of
  the five dialects.
-/

namespace TrainingLab

open Grammar Device

/-- What can be sent to a device. -/
inductive Action
  | line (text : String)
  | edit (e : GuiEdit)
deriving DecidableEq

/-- The device after an action, given the devices of its lab at the time. -/
def Action.apply (devices : Inventory) (a : Action) (d : Device) : Device :=
  match a with
  | line text => d.interpret devices text
  | edit e => d.applyEdit e

/-- The device after actions in their order. -/
def Device.run (d : Device) (actions : List (Inventory × Action)) : Device :=
  actions.foldl (fun d i => i.2.apply i.1 d) d

/-! ## Lines -/

namespace Dialect

variable {κ : Type}

/-- The commands look at their surroundings only to print. -/
def SelfContained (l : Dialect κ) : Prop :=
  ∀ c devices others, SameEffect (l.run devices c) (l.run others c)

variable {l : Dialect κ}

theorem sameEffect_runCarried (h : l.SelfContained) (devices others : Inventory) (line : String) :
    SameEffect (l.runCarried devices line) (l.runCarried others line) := by
  have hinner : SameEffect (fun d => (d.enter l.carriedMode).within [])
      (fun d => (d.enter l.carriedMode).within []) :=
    fun _ => ⟨rfl, rfl⟩
  intro d
  -- whatever the carried line does, mode and edited objects are put back afterwards
  have hafter : ∀ {f g : Device → Device}, SameEffect f g → SameEffect g g →
      (((f ((d.enter l.carriedMode).within [])).enter d.mode).within d.context).forget =
          (((g ((d.forget.enter l.carriedMode).within [])).enter d.mode).within
            d.context).forget ∧
        (((f ((d.enter l.carriedMode).within [])).enter d.mode).within d.context).identity =
          d.identity := by
    intro f g hfg hg
    have hboth := (hfg.comp hg hinner) d
    exact ⟨congrArg (fun a => (a.enter d.mode).within d.context) hboth.1, hboth.2⟩
  unfold runCarried
  cases dispatch l.carriedMode [] (Text.words line) l.table with
  | done m =>
    cases m with
    | command c => exact hafter (h c devices others) (h c others others)
    | carried _ => exact ⟨rfl, rfl⟩
  | incomplete => exact hafter (.logged l.incomplete) (.logged l.incomplete)
  | unknown => exact hafter (.logged l.carriedUnknown) (.logged l.carriedUnknown)

theorem sameEffect_act (h : l.SelfContained) (devices others : Inventory)
    (v : Verdict (Request κ)) : SameEffect (l.act devices v) (l.act others v) := by
  cases v with
  | done m =>
    cases m with
    | command c => exact h c devices others
    | carried line => exact sameEffect_runCarried h devices others line
  | incomplete => exact .logged l.incomplete
  | unknown => exact fun _ => ⟨rfl, rfl⟩

theorem sameEffect_interpret (h : l.SelfContained) (help : List String)
    (devices others : Inventory) (line : String) :
    SameEffect (l.interpret help devices line) (l.interpret help others line) := by
  intro d
  have hsame : l.verdict? line d.forget = l.verdict? line d := rfl
  cases hv : l.verdict? line d with
  | none =>
    obtain ⟨texts, htexts⟩ := interpret_of_none hv help devices
    obtain ⟨texts', htexts'⟩ := interpret_of_none (hsame.trans hv) help others
    rw [htexts, htexts']
    exact ⟨by simp, identity_logAll d texts⟩
  | some v =>
    rw [interpret_of_some hv, interpret_of_some (hsame.trans hv)]
    have hecho : (echo line d).forget = (echo line d.forget).forget := rfl
    have hact := sameEffect_act h devices others v
    exact ⟨hact.congr (sameEffect_act h others others v) hecho, (hact (echo line d)).2⟩

end Dialect

theorem Ios.selfContained : Ios.dialect.SelfContained := Ios.sameEffect_run

theorem Junos.selfContained : Junos.dialect.SelfContained := Junos.sameEffect_run

theorem FortiOs.selfContained : FortiOs.dialect.SelfContained := FortiOs.sameEffect_run

theorem PanOs.selfContained : PanOs.dialect.SelfContained := PanOs.sameEffect_run

namespace Cloud

/-- No command of the cloud console does more than print. -/
theorem forget_run (c : Command) (devices : Inventory) (d : Device) :
    (c.run devices d).forget = d.forget := by
  cases c with
  | exit => rfl
  | _ => exact forget_logAll d _

theorem orderly_run (c : Command) (devices : Inventory) :
    Orderly (fun text => text = unsupported) (c.run devices) := by
  cases c with
  | exit => exact .silent fun _ _ => ⟨rfl, rfl, rfl⟩
  | _ => exact .printed fun _ _ => rfl

theorem selfContained : dialect.SelfContained :=
  fun c devices others => .of_forget (forget_run c devices) (forget_run c others)

end Cloud

/-- Apart from what it prints, a line does the same whatever the history and the other devices. -/
theorem Device.sameEffect_interpret (devices others : Inventory) (line : String) :
    SameEffect (Device.interpret devices line) (Device.interpret others line) := by
  intro d
  have hfamily : d.forget.family = d.family := rfl
  have hvendor : d.forget.vendor = d.vendor := rfl
  simp only [Device.interpret, hfamily, hvendor]
  cases d.family with
  | cisco => exact Dialect.sameEffect_interpret Ios.selfContained _ devices others line d
  | juniper => exact Dialect.sameEffect_interpret Junos.selfContained _ devices others line d
  | fortinet => exact Dialect.sameEffect_interpret FortiOs.selfContained _ devices others line d
  | paloAlto => exact Dialect.sameEffect_interpret PanOs.selfContained _ devices others line d
  | cloud => exact Dialect.sameEffect_interpret Cloud.selfContained _ devices others line d

/-! ## Actions -/

namespace Action

/-- Apart from what it prints, an action does the same whatever the history and the other
    devices. -/
theorem sameEffect_apply (devices others : Inventory) (a : Action) :
    SameEffect (a.apply devices) (a.apply others) := by
  cases a with
  | line text => exact sameEffect_interpret devices others text
  | edit e => exact sameEffect_applyEdit e

theorem id_apply (devices : Inventory) (a : Action) (d : Device) :
    (a.apply devices d).id = d.id :=
  congrArg Prod.fst (sameEffect_apply devices devices a d).2

theorem family_apply (devices : Inventory) (a : Action) (d : Device) :
    (a.apply devices d).family = d.family :=
  family_eq_of_identity (sameEffect_apply devices devices a d).2

end Action

theorem Device.family_run (d : Device) (actions : List (Inventory × Action)) :
    (d.run actions).family = d.family := by
  induction actions generalizing d with
  | nil => rfl
  | cons i rest ih => exact (ih _).trans (i.2.family_apply i.1 d)

/-! ## Typing -/

namespace Device

/-- Apart from what they print, actions do the same whatever the histories and the other
    devices. -/
theorem forget_run {d e : Device} (h : d.forget = e.forget)
    {actions others : List (Inventory × Action)}
    (hsame : actions.map Prod.snd = others.map Prod.snd) :
    (d.run actions).forget = (e.run others).forget := by
  induction actions generalizing d e others with
  | nil =>
    cases others with
    | nil => exact h
    | cons _ _ => cases hsame
  | cons i rest ih =>
    cases others with
    | nil => cases hsame
    | cons j others =>
      obtain ⟨hij, hrest⟩ := List.cons.inj hsame
      have hstep : (i.2.apply i.1 d).forget = (j.2.apply j.1 e).forget := by
        rw [← hij]
        exact (i.2.sameEffect_apply i.1 j.1).congr (i.2.sameEffect_apply j.1 j.1) h
      exact ih hstep hrest

theorem run_append (d : Device) (actions more : List (Inventory × Action)) :
    d.run (actions ++ more) = (d.run actions).run more :=
  List.foldl_append

end Device

/-- Typed one after the other, the lines make of the first device the second one, apart from what
    is printed. -/
def Leads (lines : List String) (d e : Device) : Prop :=
  (d.run (lines.map fun line => (SortedMap.empty, .line line))).forget = e.forget

namespace Leads

variable {d e f : Device}

theorem nil (d : Device) : Leads [] d d := rfl

theorem append {lines more : List String} (h : Leads lines d e) (h' : Leads more e f) :
    Leads (lines ++ more) d f := by
  rw [Leads, List.map_append, run_append]
  exact (forget_run h rfl).trans h'

/-- Lines that are there for a value, if there is one. -/
theorem elim {α : Type} {o : Option α} {lines : α → List String} (hnone : o = none → d = e)
    (hsome : ∀ a, o = some a → Leads (lines a) d e) : Leads (o.elim [] lines) d e := by
  cases o with
  | none => exact hnone rfl ▸ nil d
  | some a => exact hsome a rfl

/-- The other devices of the lab do not matter. -/
theorem forget_run {lines : List String} (h : Leads lines d e)
    {actions : List (Inventory × Action)}
    (hlines : actions.map Prod.snd = lines.map Action.line) :
    (d.run actions).forget = e.forget := by
  refine (Device.forget_run rfl ?_).trans h
  rw [hlines, List.map_map]
  rfl

end Leads

end TrainingLab
