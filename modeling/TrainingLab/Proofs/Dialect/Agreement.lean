import TrainingLab.Proofs.Dialect.FortiOs.InterfaceChange
import TrainingLab.Proofs.Dialect.Ios.InterfaceChange
import TrainingLab.Proofs.Dialect.Junos.InterfaceChange
import TrainingLab.Proofs.Dialect.PanOs.InterfaceChange

/-
  The graphical view and the console of a device agree. A change of an interface comes to the same
  whether it is made by edits in the view or by the lines that the family of the device has for it;
  only what is on the console afterwards differs.

  Proved:
  * `leads_consoleLines`: in every family, the lines of a change come to the change itself.
  * `config_consoleLines`: so they leave what the edits leave, in all that is configured.
  * `edits_agree_with_console`: in particular the same live interfaces and the same candidate.
-/

namespace TrainingLab.Device

/-- The console is where changes of interfaces begin. -/
def Configures (d : Device) : Prop :=
  match d.family with
  | .cisco => d.mode = .config
  | .juniper => d.mode = .edit ∧ d.context = []
  | .fortinet => d.context = []
  | .paloAlto => d.mode = .config
  | .cloud => False

/-- The lines that the family of the device has for a change of the interface. -/
def ConsoleLines (d : Device) (name : String) (c : InterfaceChange) (lines : List String) : Prop :=
  match d.family with
  | .cisco => ∃ line, Ios.Statement c line ∧ lines = ["interface " ++ name, line]
  | .juniper => ∃ line, Junos.Statement d name c line ∧ lines = [line]
  | .fortinet =>
    ∃ line, FortiOs.Statement c line ∧ lines = ["config system interface", "edit " ++ name, line]
  | .paloAlto => ∃ line, PanOs.Statement name c line ∧ lines = [line]
  | .cloud => False

section Agreement

variable {d : Device} {name : String} {c : InterfaceChange}

/-- The lines of a change come to the change. -/
theorem leads_consoleLines {lines : List String} (h : d.ConsoleLines name c lines)
    (hconfig : d.Configures) (hthere : (d.editedInterface? name).isSome = true)
    (hname : Text.IsPlain name) (hvalid : c.Valid) :
    ∃ e, Leads lines d e ∧ e.config = (d.amend name c.apply).config := by
  unfold ConsoleLines at h
  split at h
  next hfamily =>
    obtain ⟨line, hline, rfl⟩ := h
    have hmode : d.mode = .config := by rwa [Configures, hfamily] at hconfig
    exact Ios.leads_change hfamily (by rw [hmode]; decide) hname.word hline hvalid
  next hfamily =>
    obtain ⟨line, hline, rfl⟩ := h
    obtain ⟨hmode, htop⟩ : d.mode = .edit ∧ d.context = [] := by
      rwa [Configures, hfamily] at hconfig
    have hstaged : (d.stagedInterface? name).isSome = true := by
      rwa [editedInterface?, stagesEdits, hfamily] at hthere
    exact Junos.leads_change hfamily hmode htop hname.word hstaged hline hvalid
  next hfamily =>
    obtain ⟨line, hline, rfl⟩ := h
    have htop : d.context = [] := by rwa [Configures, hfamily] at hconfig
    exact FortiOs.leads_change hfamily htop hname hline hvalid
  next hfamily =>
    obtain ⟨line, hline, rfl⟩ := h
    have hmode : d.mode = .config := by rwa [Configures, hfamily] at hconfig
    exact PanOs.leads_change hfamily hmode hname.word hline hvalid
  next => exact h.elim

/-- Lines and edits for the same change leave the same in all that is configured. -/
theorem config_consoleLines {typed : List (Inventory × String)}
    (h : d.ConsoleLines name c (typed.map Prod.snd)) (hconfig : d.Configures)
    (hthere : (d.editedInterface? name).isSome = true) (hname : Text.IsPlain name)
    (hvalid : c.Valid) : (d.enterLines typed).config = (d.applyEdits name c.edits).config := by
  obtain ⟨e, hleads, he⟩ := leads_consoleLines h hconfig hthere hname hvalid
  calc (d.enterLines typed).config
      = e.config := config_eq_of_forget (hleads.enterLines rfl)
    _ = (d.amend name c.apply).config := he
    _ = (d.applyEdits name c.edits).config := (config_edits hthere c).symm

/-- Lines and edits for the same change leave the same live interfaces and the same candidate. -/
theorem edits_agree_with_console {typed : List (Inventory × String)} (hconfig : d.Configures)
    (hthere : (d.editedInterface? name).isSome = true) (hname : Text.IsPlain name)
    (hvalid : c.Valid) (h : d.ConsoleLines name c (typed.map Prod.snd)) :
    (d.applyEdits name c.edits).interfaces = (d.enterLines typed).interfaces ∧
      (d.applyEdits name c.edits).candidate = (d.enterLines typed).candidate := by
  have hsame := (config_consoleLines h hconfig hthere hname hvalid).symm
  exact ⟨eq_of_config Device.interfaces (fun _ => rfl) hsame,
    eq_of_config Device.candidate (fun _ => rfl) hsame⟩

/-- An address of an interface with a unit that has none of its own: it is staged for the interface
    itself, and nothing is live yet. -/
theorem edits_agree_with_console_unit :
    let d : Device :=
      { id := "r1", name := "r1", kind := .router, vendor := .juniper, mode := .edit
        interfaces := SortedMap.empty.insert "ge-0/0/0" {} }
    let c : InterfaceChange := .address "10.0.0.1" "24"
    let typed : List (Inventory × String) :=
      [(SortedMap.empty, "set interfaces ge-0/0/0 unit 0 family inet address 10.0.0.1/24")]
    let staged : Candidate :=
      { interfaces := SortedMap.empty.insert "ge-0/0/0" { ip := "10.0.0.1", mask := "24" } }
    d.Configures ∧ c.Valid ∧ d.ConsoleLines "ge-0/0/0" c (typed.map Prod.snd) ∧
      (d.enterLines typed).interfaces = d.interfaces ∧
      (d.enterLines typed).candidate = some staged := by
  intro d c typed staged
  have hconfig : d.Configures := ⟨rfl, rfl⟩
  have hvalid : c.Valid := by decide
  have hlines : d.ConsoleLines "ge-0/0/0" c (typed.map Prod.snd) :=
    ⟨_, @Junos.Statement.address d "ge-0/0/0" "10.0.0.1" "24" "0" (by decide) (by decide),
      by decide⟩
  have hsame : (d.applyEdits "ge-0/0/0" c.edits).interfaces = (d.enterLines typed).interfaces ∧
      (d.applyEdits "ge-0/0/0" c.edits).candidate = (d.enterLines typed).candidate :=
    edits_agree_with_console hconfig (by decide) (by decide) hvalid hlines
  have hinterfaces : (d.applyEdits "ge-0/0/0" c.edits).interfaces = d.interfaces := by decide
  have hcandidate : (d.applyEdits "ge-0/0/0" c.edits).candidate = some staged := by decide
  exact ⟨hconfig, hvalid, hlines, hsame.1.symm.trans hinterfaces, hsame.2.symm.trans hcandidate⟩

end Agreement

end TrainingLab.Device
