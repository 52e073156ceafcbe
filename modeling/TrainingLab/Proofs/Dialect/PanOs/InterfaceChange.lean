import TrainingLab.Proofs.Device.InterfaceChange
import TrainingLab.Proofs.Dialect.Typing
import TrainingLab.Proofs.Grammar.Arguments

/-
  Changes of an interface on the console of PAN-OS: one statement of the configuration mode. There
  is one for a zone and one for an address; a state and a description have none, and a zone can
  only be replaced. The statement for an address is answered with a line.

  Proved:
  * `leads_change`: what the statement of a change comes to.
-/

namespace TrainingLab.PanOs

open Grammar Device

/-- The statements for a change of the interface. -/
inductive Statement (name : String) : InterfaceChange → String → Prop
  | zone {zone : String} : Statement name (.zone (some zone))
      ("set zone " ++ zone ++ " network layer3 " ++ name)
  | address {ip mask : String} : Statement name (.address ip mask)
      ("set network interface ethernet " ++ name ++ " layer3 ip " ++ ip ++ "/" ++ mask)

section Statement

variable {d : Device} {name : String}

/-- A line of the configuration mode of which the table makes a command. -/
theorem leads_of_command (hfamily : d.family = .paloAlto) (hmode : d.mode = .config)
    {line token : String} {rest : List String} (hwords : Text.words line = token :: rest)
    (hmark : token ≠ "?") (hhelp : token ≠ "help") {c : Command}
    (h : dispatch .config d.context (token :: rest) table = .done (.command c)) {e : Device}
    (hrun : c.run SortedMap.empty d = e) : Leads [line] d e := by
  rw [← hmode] at h
  exact Dialect.leads_of_command (speaks hfamily) selfContained hwords hmark hhelp h hrun

/-- Every rule of the table applies to whatever is edited. -/
theorem table_anywhere : ∀ r ∈ table, r.scope = .anywhere := by
  simp only [table, List.forall_mem_cons]
  repeat apply And.intro rfl
  exact List.forall_mem_nil _

theorem dispatch_setZone {context : List Frame} {zone : String} :
    dispatch .config context ["set", "zone", zone, "network", "layer3", name] table =
      .done (.command (.setZone name zone)) := by
  rw [dispatch_anywhere table_anywhere []]
  rfl

theorem dispatch_setAddress {context : List Frame} {cidr : String}
    (hcidr : ArgumentKind.cidr.accepts cidr = true) :
    dispatch .config context
      ["set", "network", "interface", "ethernet", name, "layer3", "ip", cidr] table =
      .done (.command (.setAddress name cidr)) := by
  have helements :
      (Pattern.ofText "set network interface ethernet <name> layer3 ip <cidr>").elements =
      [.keyword "set" false, .keyword "network" false, .keyword "interface" false,
        .keyword "ethernet" false, .argument "name" .word false, .keyword "layer3" false,
        .keyword "ip" false, .argument "cidr" .cidr false] := by
    decide
  have hm : (Pattern.ofText "set network interface ethernet <name> layer3 ip <cidr>").matches
      ["set", "network", "interface", "ethernet", name, "layer3", "ip", cidr] =
      .full ((SortedMap.empty.insert "name" name).insert "cidr" cidr) := by
    rw [Pattern.matches, helements, align_keyword (by decide), align_keyword (by decide),
      align_keyword (by decide), align_keyword (by decide), align_argument rfl,
      align_keyword (by decide), align_keyword (by decide), align_argument hcidr, align_nil]
  rw [dispatch_fromWord]
  exact dispatch_cons_of_full (r := Rule.on _ _ _) rfl hm _

/-- The change, from the configuration mode. -/
theorem leads_change (hfamily : d.family = .paloAlto) (hmode : d.mode = .config)
    (hname : Text.IsWord name) {c : InterfaceChange} {line : String} (h : Statement name c line)
    (hvalid : c.Valid) :
    ∃ e, Leads [line] d e ∧ e.config = (d.amend name c.apply).config := by
  have hlive : d.family ≠ .juniper := by
    rw [hfamily]
    decide
  rw [amend_of_live hlive]
  cases h with
  | @zone zone =>
    have hwords : Text.words ("set zone " ++ zone ++ " network layer3 " ++ name) =
        ["set", "zone", zone, "network", "layer3", name] :=
      Text.words_around_append_word (by decide) (hvalid zone rfl).word (by decide) (by decide) hname
    exact ⟨_, leads_of_command hfamily hmode hwords (by decide) (by decide) dispatch_setZone rfl,
      rfl⟩
  | @address ip mask =>
    obtain ⟨hip, hunbroken, hmask⟩ := hvalid
    obtain ⟨a, rfl⟩ := exists_address hip
    have hspace : ("set network interface ethernet " ++ name ++
        " layer3 ip ").toList.getLast? = some ' ' := Text.getLast?_append (by decide)
    have hwords : Text.words ("set network interface ethernet " ++ name ++ " layer3 ip " ++
        a.toText ++ "/" ++ mask) =
        ["set", "network", "interface", "ethernet", name, "layer3", "ip",
          a.toText ++ "/" ++ mask] := by
      rw [Network.words_cidr hspace a hunbroken, Text.words_around (by decide) hname (by decide)]
      rfl
    refine ⟨_, leads_of_command hfamily hmode hwords (by decide) (by decide)
      (dispatch_setAddress (accepts_cidr a hmask)) rfl, ?_⟩
    -- the answer is printed behind the change
    rw [Command.run, config_log]
    exact congrArg (fun f => (d.editInterface name f).config)
      (funext fun i => i.setCidr_address a mask)

end Statement

end TrainingLab.PanOs
