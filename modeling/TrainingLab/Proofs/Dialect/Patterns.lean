import TrainingLab.Dialect.Console
import TrainingLab.Proofs.Grammar.Dispatch

/-
  The patterns of the tables are regular, so what the matcher and the dispatch say about a line is
  a fact about the language of the patterns, for every family.

  Proved:
  * `Family.patterns_regular`: every pattern of every table is regular.
  * `matching_decides_language`: complete and incomplete lines, for one pattern and for a list of
    rules, without any reference to the search.
-/

namespace TrainingLab

open Grammar

/-- The patterns of a family's table, in order. -/
def Family.patterns : Family → List Pattern
  | cisco => Ios.table.map Rule.pattern
  | juniper => Junos.table.map Rule.pattern
  | fortinet => FortiOs.table.map Rule.pattern
  | paloAlto => PanOs.table.map Rule.pattern
  | cloud => Cloud.table.map Rule.pattern

/-! ## Regular tables -/

theorem Ios.table_regular : ∀ r ∈ Ios.table, r.pattern.Regular := by
  simp only [Ios.table, List.forall_mem_cons]
  repeat apply And.intro (regular_ofList (by decide))
  exact List.forall_mem_nil _

theorem Junos.table_regular : ∀ r ∈ Junos.table, r.pattern.Regular := by
  simp only [Junos.table, List.forall_mem_cons]
  repeat apply And.intro (regular_ofList (by decide))
  exact List.forall_mem_nil _

theorem FortiOs.table_regular : ∀ r ∈ FortiOs.table, r.pattern.Regular := by
  simp only [FortiOs.table, List.forall_mem_cons]
  repeat apply And.intro (regular_ofList (by decide))
  exact List.forall_mem_nil _

theorem PanOs.table_regular : ∀ r ∈ PanOs.table, r.pattern.Regular := by
  simp only [PanOs.table, String.reduceAppend, List.forall_mem_cons]
  repeat apply And.intro (regular_ofList (by decide))
  exact List.forall_mem_nil _

theorem Cloud.table_regular : ∀ r ∈ Cloud.table, r.pattern.Regular := by
  simp only [Cloud.table, List.forall_mem_cons]
  repeat apply And.intro (regular_ofList (by decide))
  exact List.forall_mem_nil _

/-- Every pattern of every table is regular. -/
theorem Family.patterns_regular (f : Family) : ∀ p ∈ f.patterns, p.Regular := by
  cases f
  case cisco => exact List.forall_mem_map.mpr Ios.table_regular
  case juniper => exact List.forall_mem_map.mpr Junos.table_regular
  case fortinet => exact List.forall_mem_map.mpr FortiOs.table_regular
  case paloAlto => exact List.forall_mem_map.mpr PanOs.table_regular
  case cloud => exact List.forall_mem_map.mpr Cloud.table_regular

/-! ## The language of a table -/

/-- The matcher decides the language of patterns. For a pattern with distinct placeholders, a line
    is complete exactly when it can be laid against the elements, and the captures are then the
    bindings of the alignment that prefers taking words, from left to right, and nothing else. If
    the pattern has a rest at most at its end and its keywords are in lower case, a line is
    incomplete exactly when it is not complete and some words behind it make it so. A list of such
    rules decides by the first rule that applies and matches completely. More is expected exactly
    when there is none, but some rule that applies expects more, and this is when some words behind
    the line would let a rule decide. The tables of all families consist of such rules. -/
theorem matching_decides_language :
    (∀ (text : String) (tokens : List String),
      (placeholders (Pattern.ofText text).elements).Nodup →
      (((Pattern.ofText text).matches tokens).isFull = true ↔
        Aligns (Pattern.ofText text).elements tokens) ∧
      (∀ caps, (Pattern.ofText text).matches tokens = .full caps ↔
        ∃ takes bindings, Preferred (Pattern.ofText text).elements tokens takes bindings ∧
          ∀ name value, caps.find? name = some value ↔ (name, value) ∈ bindings) ∧
      (RestLast (Pattern.ofText text).elements →
        (∀ e ∈ (Pattern.ofText text).elements, e.IsLower) →
        ((Pattern.ofText text).matches tokens = .incomplete ↔
          ((Pattern.ofText text).matches tokens).isFull = false ∧
            ∃ more, more ≠ [] ∧
              ((Pattern.ofText text).matches (tokens ++ more)).isFull = true))) ∧
    (∀ (α : Type) (rules : List (Rule α)), (∀ r ∈ rules, r.pattern.Regular) →
      ∀ (mode : Mode) (context : List Frame) (tokens : List String),
      ((∃ m, dispatch mode context tokens rules = .done m) ↔
        ∃ r ∈ rules, r.applies mode context = true ∧
          (r.pattern.matches tokens).isFull = true) ∧
      (∀ m, dispatch mode context tokens rules = .done m ↔
        ∃ r caps, rules.find? (Rule.fits mode context tokens) = some r ∧
          r.pattern.matches tokens = .full caps ∧ m = r.meaning caps) ∧
      (dispatch mode context tokens rules = .incomplete ↔
        (∀ m, dispatch mode context tokens rules ≠ .done m) ∧
          ∃ r ∈ rules, r.applies mode context = true ∧
            r.pattern.matches tokens = .incomplete) ∧
      (dispatch mode context tokens rules = .incomplete ↔
        (∀ m, dispatch mode context tokens rules ≠ .done m) ∧
          ∃ more, more ≠ [] ∧
            ∃ m, dispatch mode context (tokens ++ more) rules = .done m)) ∧
    ∀ (f : Family), ∀ p ∈ f.patterns, p.Regular := by
  refine ⟨fun text tokens hd =>
      ⟨Pattern.isFull_matches_iff, fun caps => ?_, fun hlast hlower => ?_⟩,
    fun α rules hrules mode context tokens => ⟨exists_done_iff, fun m => dispatch_done_iff,
      dispatch_incomplete_iff, dispatch_incomplete_iff_extends hrules⟩, Family.patterns_regular⟩
  · exact Pattern.matches_full_iff hd
  · exact Pattern.matches_incomplete_iff hlast hlower

/-- In `ping [<num>] <target>` the word `5` is first tried for the number and then left to the
    target, without a trace of the trial; `ping` alone is incomplete there, and on the console of a
    cloud resource `show` is. -/
theorem matching_decides_language_ping :
    (∃ takes bindings,
      Preferred (Pattern.ofText "ping [<num>] <target>").elements ["ping", "5"] takes bindings ∧
      ∀ name value, (SortedMap.ofList [("target", "5")]).find? name = some value ↔
        (name, value) ∈ bindings) ∧
    (Pattern.ofText "ping [<num>] <target>").matches ["ping"] = .incomplete ∧
    ∃ more, more ≠ [] ∧ ∃ m, dispatch .user [] (["show"] ++ more) Cloud.table = .done m := by
  have hd : (placeholders (Pattern.ofText "ping [<num>] <target>").elements).Nodup := by
    decide +kernel
  obtain ⟨hone, htable, _⟩ := matching_decides_language
  refine ⟨?_, ?_, ?_⟩
  · refine ((hone _ ["ping", "5"] hd).2.1 _).mp ?_
    decide +kernel
  · refine ((hone _ ["ping"] hd).2.2 (by decide +kernel) (by decide +kernel)).mpr ?_
    exact ⟨by decide +kernel, ["5"], by simp, by decide +kernel⟩
  · have hincomplete : dispatch .user [] ["show"] Cloud.table = .incomplete := by decide +kernel
    exact ((htable _ _ Cloud.table_regular .user [] ["show"]).2.2.2.mp hincomplete).2

end TrainingLab
