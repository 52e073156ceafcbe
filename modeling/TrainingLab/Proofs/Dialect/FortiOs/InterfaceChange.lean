import TrainingLab.Proofs.Device.InterfaceChange
import TrainingLab.Proofs.Dialect.FortiOs.Reading

/-
  Changes of an interface on the console of FortiOS: the lines that open the section and the
  interface in it, and one statement.

  Proved:
  * `leads_statement`: what the statement of a change does to the interface that is open.
  * `leads_change`: what the three lines come to.
-/

namespace TrainingLab.FortiOs

open Grammar Device

/-- The statements for a change of the open interface. An address is followed by a dotted mask, or
    by a slash and a mask in any notation. -/
inductive Statement : InterfaceChange → String → Prop
  | enable : Statement (.up true) "set status up"
  | disable : Statement (.up false) "set status down"
  | zone {zone : String} : Statement (.zone (some zone)) ("set zone " ++ zone)
  | noZone : Statement (.zone none) "unset zone"
  | description {text : String} : Statement (.description (some text)) ("set alias " ++ text)
  | noDescription : Statement (.description none) "unset alias"
  | address {ip mask : String} (hdotted : Text.hasChar '.' mask = true) :
      Statement (.address ip mask) ("set ip " ++ ip ++ " " ++ mask)
  | cidr {ip mask : String} : Statement (.address ip mask) ("set ip " ++ ip ++ "/" ++ mask)

section Statement

variable {d : Device} {name : String} {i : Interface}

theorem isFull_masked_iff {words : List String} :
    ((Pattern.ofText "set ip <ip> <mask>").matches ("set" :: "ip" :: words)).isFull = true ↔
      ∃ ip mask, words = [ip, mask] ∧ ArgumentKind.address.accepts ip = true ∧
        ArgumentKind.mask.accepts mask = true := by
  have helements : (Pattern.ofText "set ip <ip> <mask>").elements =
      [.keyword "set" false, .keyword "ip" false, .argument "ip" .address false,
        .argument "mask" .mask false] := by decide
  constructor
  · intro h
    rw [Pattern.matches, helements, align_keyword (by decide), align_keyword (by decide)] at h
    have haligns := aligns_of_isFull h
    simp only [aligns_argument_iff, aligns_nil_iff] at haligns
    obtain ⟨ip, _, rfl, hip, mask, _, rfl, hmask, rfl⟩ := haligns
    exact ⟨ip, mask, rfl, hip, hmask⟩
  · rintro ⟨ip, mask, rfl, hip, hmask⟩
    rw [matches_address "ip" helements (by decide) hip hmask]
    rfl

theorem matches_cidr {cidr : String} (hcidr : ArgumentKind.cidr.accepts cidr = true) :
    (Pattern.ofText "set ip <cidr>").matches ["set", "ip", cidr] =
      .full (SortedMap.empty.insert "cidr" cidr) := by
  have helements : (Pattern.ofText "set ip <cidr>").elements =
      [.keyword "set" false, .keyword "ip" false, .argument "cidr" .cidr false] := by decide
  rw [Pattern.matches, helements, align_keyword (by decide), align_keyword (by decide),
    align_argument hcidr, align_nil]

theorem isFull_cidr_iff {words : List String} :
    ((Pattern.ofText "set ip <cidr>").matches ("set" :: "ip" :: words)).isFull = true ↔
      ∃ cidr, words = [cidr] ∧ ArgumentKind.cidr.accepts cidr = true := by
  have helements : (Pattern.ofText "set ip <cidr>").elements =
      [.keyword "set" false, .keyword "ip" false, .argument "cidr" .cidr false] := by decide
  constructor
  · intro h
    rw [Pattern.matches, helements, align_keyword (by decide), align_keyword (by decide)] at h
    have haligns := aligns_of_isFull h
    simp only [aligns_argument_iff, aligns_nil_iff] at haligns
    obtain ⟨cidr, _, rfl, hcidr, rfl⟩ := haligns
    exact ⟨cidr, rfl, hcidr⟩
  · rintro ⟨cidr, rfl, hcidr⟩
    rw [matches_cidr hcidr]
    rfl

theorem dispatch_setCidr {mode : Mode} {cidr : String}
    (hcidr : ArgumentKind.cidr.accepts cidr = true) :
    dispatch mode [⟨.interface, name⟩, ⟨.configSection, interfaces⟩] ["set", "ip", cidr] table =
      .done (.command (.setCidr cidr)) := by
  have hmasked : ((Pattern.ofText "set ip <ip> <mask>").matches
      ["set", "ip", cidr]).isFull = false := by
    refine Bool.eq_false_iff.mpr fun hfull => ?_
    obtain ⟨ip, mask, hwords, _⟩ := isFull_masked_iff.mp hfull
    cases hwords
  rw [dispatch_fromScope (.inObject interfaces) rfl]
  -- the rule for an address and a mask comes first
  refine dispatch_cons_of_not_full (r := inside _ _ _) hmasked ?_
  exact dispatch_cons_of_full (r := inside _ _ _) rfl (matches_cidr hcidr) _

theorem leads_statement (hfamily : d.family = .fortinet) {c : InterfaceChange} {line : String}
    (h : Statement c line) (hvalid : c.Valid) :
    Leads [line] (inInterface d name i) (inInterface d name (c.apply i)) := by
  cases h with
  | enable =>
    have hwords : Text.words "set status up" = ["set", "status", "up"] := by decide
    exact leads_setInterface hfamily hwords (by decide) (by decide) rfl
      (fun i => i.setUp true) rfl
  | disable => exact leads_setDown hfamily (by decide)
  | @zone zone =>
    obtain ⟨hword, hbare⟩ := hvalid zone rfl
    exact leads_setZone hfamily
      (Text.words_append_word (c := ' ') (by decide) (by decide) hword.1 hword.2)
      (Text.unquote_of_bare hbare)
  | noZone =>
    have hwords : Text.words "unset zone" = ["unset", "zone"] := by decide
    exact leads_setInterface hfamily hwords (by decide) (by decide) rfl
      (fun i => i.setZone none) rfl
  | @description text =>
    obtain ⟨hnormal, hne, hbare⟩ := hvalid text rfl
    exact leads_setAlias hfamily
      (Text.words_append_of_blank (c := ' ') (by decide) (by decide) text) hnormal hne
      (Text.unquote_of_bare hbare)
  | noDescription =>
    have hwords : Text.words "unset alias" = ["unset", "alias"] := by decide
    exact leads_setInterface hfamily hwords (by decide) (by decide) rfl
      (fun i => i.setDescription none) rfl
  | @address ip mask hdotted =>
    obtain ⟨hip, hunbroken, hmask⟩ := hvalid
    have haccepts : ArgumentKind.mask.accepts mask = true := by
      rw [ArgumentKind.accepts, hdotted, hmask, Bool.and_self]
    obtain ⟨net, rfl, rfl⟩ := exists_cidr hip hunbroken haccepts
    have hwords : Text.words ("set ip " ++ net.address.toText ++ " " ++ net.mask.toText) =
        ["set", "ip", net.address.toText, net.mask.toText] :=
      words_address (by decide) ⟨net.address.unbroken_toText, hip⟩ ⟨hunbroken, haccepts⟩
    exact leads_setAddress hfamily hwords hip haccepts
  | @cidr ip mask =>
    obtain ⟨hip, hunbroken, hmask⟩ := hvalid
    obtain ⟨a, rfl⟩ := exists_address hip
    have hwords : Text.words ("set ip " ++ a.toText ++ "/" ++ mask) =
        ["set", "ip", a.toText ++ "/" ++ mask] := Network.words_cidr (by decide) a hunbroken
    refine leads_setInterface hfamily hwords (by decide) (by decide)
      (dispatch_setCidr (accepts_cidr a hmask))
      (fun i => i.setAddress a.toText mask) ?_
    rw [Command.run]
    exact congrArg (fun f => editInterface f _) (funext fun i => i.setCidr_address a mask)

/-- The change, from the top. -/
theorem leads_change (hfamily : d.family = .fortinet) (htop : d.context = [])
    (hname : Text.IsPlain name) {c : InterfaceChange} {line : String} (h : Statement c line)
    (hvalid : c.Valid) :
    ∃ e, Leads ["config system interface", "edit " ++ name, line] d e ∧
      e.config = (d.amend name c.apply).config := by
  have hlive : d.family ≠ .juniper := by
    rw [hfamily]
    decide
  let opened := d.within [⟨.configSection, interfaces⟩]
  have hline : "config " ++ interfaces = "config system interface" := by decide
  have hsection : Leads ["config system interface"] d opened := by
    rw [← hline]
    exact leads_openSection hfamily htop (.inl rfl)
  have hinterface : Leads ["edit " ++ name] opened
      (inInterface opened name ((d.interfaces.find? name).getD {})) :=
    leads_openInterface (d := opened) hfamily rfl
      (Text.words_append_word (c := ' ') (by decide) (by decide) hname.word.1 hname.word.2)
      (Text.unquote_of_bare hname.bare)
  refine ⟨_, (hsection.append hinterface).append
    (leads_statement (d := opened) hfamily h hvalid), ?_⟩
  rw [amend_of_live hlive]
  rfl

end Statement

end TrainingLab.FortiOs
