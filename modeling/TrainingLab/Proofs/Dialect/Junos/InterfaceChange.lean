import TrainingLab.Proofs.Device.InterfaceChange
import TrainingLab.Proofs.Dialect.Typing
import TrainingLab.Proofs.Grammar.Arguments

/-
  Changes of an interface on the console of Junos: one statement at the top of the hierarchy, which
  names the interface. A statement about an address names a unit as well, and is about the logical
  interface of the full name if there is one.

  Proved:
  * `resolve_of_staged`, `resolve_of_unstaged_unit`: when a statement is about the interface itself.
  * `leads_statement`: what the statement of a change does.
-/

namespace TrainingLab.Junos

open Grammar Device

/-- The statements for a change of the interface, at the top. A zone that is left may have any
    name. An address is one of the interface if the unit has none of its own. -/
inductive Statement (d : Device) (name : String) : InterfaceChange → String → Prop
  | enable : Statement d name (.up true) ("delete interfaces " ++ name ++ " disable")
  | disable : Statement d name (.up false) ("set interfaces " ++ name ++ " disable")
  | zone {zone : String} : Statement d name (.zone (some zone))
      ("set security zones security-zone " ++ zone ++ " interfaces " ++ name)
  | noZone {zone : String} (hzone : Text.IsWord zone) : Statement d name (.zone none)
      ("delete security zones security-zone " ++ zone ++ " interfaces " ++ name)
  | description {text : String} : Statement d name (.description (some text))
      ("set interfaces " ++ name ++ " description " ++ text)
  | noDescription : Statement d name (.description none)
      ("delete interfaces " ++ name ++ " description")
  | address {ip mask unit : String} (hunit : (Text.readUInt32? unit).isSome = true)
      (hown : d.stagedInterface? (name ++ "." ++ unit) = none) : Statement d name (.address ip mask)
      ("set interfaces " ++ name ++ " unit " ++ unit ++ " family inet address " ++ ip ++ "/" ++
        mask)

/-! ## Names -/

section Names

variable {d : Device} {name : String}

theorem resolve_of_staged (h : (d.stagedInterface? name).isSome = true) :
    resolve d name none = name := by
  simp only [resolve, Option.map_none, Option.filter_none, h, if_true]

theorem resolve_of_unstaged_unit (h : (d.stagedInterface? name).isSome = true) {unit : String}
    (hown : d.stagedInterface? (name ++ "." ++ unit) = none) :
    resolve d name (some unit) = name := by
  simp only [resolve, Option.map_some, Option.filter_some, hown, Option.isSome_none,
    Bool.false_eq_true, if_false, h, if_true]

theorem stage_named (h : (d.stagedInterface? name).isSome = true) (f : Interface → Interface) :
    stage (.named name) none f d = d.stageInterface name f := by
  rw [stage, stageNamed, resolve_of_staged h]

theorem releaseZone_of_staged (h : (d.stagedInterface? name).isSome = true) :
    releaseZone name d = d.stageInterface name fun i => i.setZone none := by
  rw [releaseZone, resolve_of_staged h, if_pos h, stageNamed, resolve_of_staged h]

end Names

/-! ## Statements -/

section Statement

variable {d : Device} {name : String}

/-- A zone and the interface, behind what is to be done with them. -/
theorem words_zone {start : String} (hlast : start.toList.getLast? = some ' ') {zone : String}
    (hzone : Text.IsWord zone) (hname : Text.IsWord name) :
    Text.words (start ++ zone ++ " interfaces " ++ name) =
      Text.words start ++ [zone, "interfaces", name] := by
  have hmiddle : Text.words " interfaces " = ["interfaces"] := by decide
  rw [Text.words_around_append_word hlast hzone (by decide) (by decide) hname, hmiddle,
    List.append_assoc]
  rfl

/-- A line at the top of which the table makes a command. -/
theorem leads_of_command (hfamily : d.family = .juniper) (hmode : d.mode = .edit)
    (htop : d.context = []) {line token : String} {rest : List String}
    (hwords : Text.words line = token :: rest) (hmark : token ≠ "?") (hhelp : token ≠ "help")
    {c : Command} (h : dispatch .edit [] (token :: rest) table = .done (.command c)) {e : Device}
    (hrun : c.run SortedMap.empty d = e) : Leads [line] d e := by
  rw [← hmode, ← htop] at h
  exact Dialect.leads_of_command (speaks hfamily) selfContained hwords hmark hhelp h hrun

/-- The rules behind those for moving about. -/
def statements : List (Rule (Request Command)) := table.drop 57

/-- No rule in front of these is about statements. -/
theorem table_front : ∀ r ∈ table.take 57, r.applies .edit [] = false ∨
    ∀ word ∈ ["set", "delete"], r.pattern.opensWith word = false := by
  let words : List (List Char) := [['s', 'e', 't'], ['d', 'e', 'l', 'e', 't', 'e']]
  have hwords : ["set", "delete"] = words.map String.ofList := rfl
  simp only [hwords, table, List.take_succ_cons, List.take_zero, List.forall_mem_cons]
  repeat first
    | apply And.intro (Or.inl rfl)
    | apply And.intro (Or.inr (not_opensWith_ofChars words (by decide)))
  exact List.forall_mem_nil _

theorem dispatch_statements {token : String} (htoken : Text.lower token ∈ ["set", "delete"])
    (rest : List String) :
    dispatch .edit [] (token :: rest) table = dispatch .edit [] (token :: rest) statements := by
  have hfront : dispatch .edit [] (token :: rest) (table.take 57) = .unknown := by
    refine dispatch_eq_unknown fun r hr happ => ?_
    rcases table_front r hr with hno | hopens
    · rw [hno] at happ
      cases happ
    · exact Pattern.matches_of_not_opensWith (hopens _ htoken) rest
  have hsplit := dispatch_append_of_unknown hfront statements
  rwa [statements, List.take_append_drop] at hsplit

theorem dispatch_setAddress {unit cidr : String}
    (hunit : ArgumentKind.number.accepts unit = true)
    (hcidr : ArgumentKind.cidr.accepts cidr = true) :
    dispatch .edit []
      ["set", "interfaces", name, "unit", unit, "family", "inet", "address", cidr] table =
      .done (.command (.setAddress (.named name) (some unit) cidr)) := by
  have helements :
      (Pattern.ofText "set interfaces <name> unit <unit> family inet address <cidr>").elements =
      [.keyword "set" false, .keyword "interfaces" false, .argument "name" .word false,
        .keyword "unit" false, .argument "unit" .number false, .keyword "family" false,
        .keyword "inet" false, .keyword "address" false, .argument "cidr" .cidr false] := by
    decide
  have hm : (Pattern.ofText "set interfaces <name> unit <unit> family inet address <cidr>").matches
      ["set", "interfaces", name, "unit", unit, "family", "inet", "address", cidr] =
      .full (((SortedMap.empty.insert "name" name).insert "unit" unit).insert "cidr" cidr) := by
    rw [Pattern.matches, helements, align_keyword (by decide), align_keyword (by decide),
      align_argument rfl, align_keyword (by decide), align_argument hunit,
      align_keyword (by decide), align_keyword (by decide), align_keyword (by decide),
      align_argument hcidr, align_nil]
  rw [dispatch_statements (by decide)]
  exact dispatch_cons_of_full (r := inside _ _ _) rfl hm _

theorem dispatch_disable : dispatch .edit [] ["set", "interfaces", name, "disable"] table =
    .done (.command (.setUp (.named name) false)) := by
  rw [dispatch_statements (by decide)]
  rfl

theorem dispatch_enable : dispatch .edit [] ["delete", "interfaces", name, "disable"] table =
    .done (.command (.setUp (.named name) true)) := by
  rw [dispatch_statements (by decide)]
  rfl

theorem dispatch_zone {zone : String} : dispatch .edit []
    ["set", "security", "zones", "security-zone", zone, "interfaces", name] table =
    .done (.command (.setZone name zone)) := by
  rw [dispatch_statements (by decide)]
  rfl

theorem dispatch_noZone {zone : String} : dispatch .edit []
    ["delete", "security", "zones", "security-zone", zone, "interfaces", name] table =
    .done (.command (.clearZone name)) := by
  rw [dispatch_statements (by decide)]
  rfl

theorem dispatch_description {first : String} {rest : List String} : dispatch .edit []
    ("set" :: "interfaces" :: name :: "description" :: first :: rest) table =
    .done (.command (.describe (.named name)
      (some (Text.unquote (Text.joinWith " " (first :: rest)))))) := by
  rw [dispatch_statements (by decide)]
  rfl

theorem dispatch_noDescription :
    dispatch .edit [] ["delete", "interfaces", name, "description"] table =
    .done (.command (.describe (.named name) none)) := by
  rw [dispatch_statements (by decide)]
  rfl

/-- The statement stages the change. -/
theorem leads_statement (hfamily : d.family = .juniper) (hmode : d.mode = .edit)
    (htop : d.context = []) (hname : Text.IsWord name)
    (hthere : (d.stagedInterface? name).isSome = true) {c : InterfaceChange} {line : String}
    (h : Statement d name c line) (hvalid : c.Valid) :
    Leads [line] d (d.stageInterface name c.apply) := by
  cases h with
  | enable =>
    have hwords : Text.words ("delete interfaces " ++ name ++ " disable") =
        ["delete", "interfaces", name, "disable"] :=
      Text.words_around (by decide) hname (by decide)
    exact leads_of_command hfamily hmode htop hwords (by decide) (by decide) dispatch_enable
      (stage_named hthere _)
  | disable =>
    have hwords : Text.words ("set interfaces " ++ name ++ " disable") =
        ["set", "interfaces", name, "disable"] :=
      Text.words_around (by decide) hname (by decide)
    exact leads_of_command hfamily hmode htop hwords (by decide) (by decide) dispatch_disable
      (stage_named hthere _)
  | @zone zone =>
    exact leads_of_command hfamily hmode htop
      (words_zone (by decide) (hvalid zone rfl).word hname) (by decide) (by decide) dispatch_zone
      (stage_named hthere fun i => i.setZone (some zone))
  | noZone hzone =>
    exact leads_of_command hfamily hmode htop (words_zone (by decide) hzone hname) (by decide)
      (by decide) dispatch_noZone (releaseZone_of_staged hthere)
  | @description text =>
    obtain ⟨hnormal, hne, hbare⟩ := hvalid text rfl
    obtain ⟨first, rest, hparts⟩ := hnormal.exists_words hne
    have hwords : Text.words ("set interfaces " ++ name ++ " description " ++ text) =
        "set" :: "interfaces" :: name :: "description" :: first :: rest := by
      have hspace : ("set interfaces " ++ name ++ " description ").toList.getLast? = some ' ' :=
        Text.getLast?_append (by decide)
      rw [Text.words_append_of_blank hspace (by decide), hparts,
        Text.words_around (by decide) hname (by decide)]
      rfl
    have htext : Text.unquote (Text.joinWith " " (first :: rest)) = text := by
      rw [← hparts, hnormal, Text.unquote_of_bare hbare]
    refine leads_of_command hfamily hmode htop hwords (by decide) (by decide)
      dispatch_description ?_
    rw [htext]
    exact stage_named hthere fun i => i.setDescription (some text)
  | noDescription =>
    have hwords : Text.words ("delete interfaces " ++ name ++ " description") =
        ["delete", "interfaces", name, "description"] :=
      Text.words_around (by decide) hname (by decide)
    exact leads_of_command hfamily hmode htop hwords (by decide) (by decide)
      dispatch_noDescription (stage_named hthere _)
  | @address ip mask unit hunit hown =>
    obtain ⟨hip, hunbroken, hmask⟩ := hvalid
    obtain ⟨a, rfl⟩ := exists_address hip
    have hspace : ("set interfaces " ++ name ++ " unit " ++ unit ++
        " family inet address ").toList.getLast? = some ' ' := Text.getLast?_append (by decide)
    have hunitSpace : ("set interfaces " ++ name ++ " unit ").toList.getLast? = some ' ' :=
      Text.getLast?_append (by decide)
    have hwords : Text.words ("set interfaces " ++ name ++ " unit " ++ unit ++
        " family inet address " ++ a.toText ++ "/" ++ mask) =
        ["set", "interfaces", name, "unit", unit, "family", "inet", "address",
          a.toText ++ "/" ++ mask] := by
      rw [Network.words_cidr hspace a hunbroken,
        Text.words_around hunitSpace (isWord_of_number hunit) (by decide),
        Text.words_around (by decide) hname (by decide)]
      rfl
    refine leads_of_command hfamily hmode htop hwords (by decide) (by decide)
      (dispatch_setAddress hunit (accepts_cidr a hmask)) ?_
    rw [Command.run, stage, stageNamed, resolve_of_unstaged_unit hthere hown]
    exact congrArg (d.stageInterface name) (funext fun i => i.setCidr_address a mask)

/-- The change, from the top. -/
theorem leads_change (hfamily : d.family = .juniper) (hmode : d.mode = .edit)
    (htop : d.context = []) (hname : Text.IsWord name)
    (hthere : (d.stagedInterface? name).isSome = true) {c : InterfaceChange} {line : String}
    (h : Statement d name c line) (hvalid : c.Valid) :
    ∃ e, Leads [line] d e ∧ e.config = (d.amend name c.apply).config := by
  refine ⟨_, leads_statement hfamily hmode htop hname hthere h hvalid, ?_⟩
  rw [amend_of_staged hfamily]

end Statement

end TrainingLab.Junos
