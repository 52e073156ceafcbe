import TrainingLab.Proofs.Dialect.PanOs.InterfaceChange

/-
  Questions to the rulebase of PAN-OS. A question is typed as clauses, each a key with its value;
  it is answered by the first rule that takes it in.

  A zone or a protocol that is left out restricts nothing. A port that is left out restricts nothing
  either as long as no protocol is asked for. With a protocol the question counts as a flow without
  a port, and no rule about a port takes in such a flow.

  Proved:
  * `valueOf?_clauses`: the value of a key is that of the first clause about it.
  * `interpret_asking`: a line that asks prints the answer to its clauses.
  * `ruleCovers_without`: which rules still take in a question that leaves a key out.
  * `omitted_key`: both for a line and for one that leaves a key out, and the position of the rule
    that answers.
  * `omitted_port_misses`: a rule about a port is missed once the port is left out.
-/

namespace TrainingLab.PanOs

open Grammar Device

/-! ## Clauses -/

/-- What a question can be about. -/
inductive QueryKey
  | fromZone
  | toZone
  | protocol
  | port
deriving DecidableEq

namespace QueryKey

/-- The word for the key. -/
def word : QueryKey → String
  | fromZone => "from"
  | toZone => "to"
  | protocol => "protocol"
  | port => "destination-port"

/-- The text is the word for the key, in any case. -/
def IsSpelled (key : QueryKey) (text : String) : Prop :=
  Text.equalIgnoringCase text key.word = true

instance (key : QueryKey) (text : String) : Decidable (key.IsSpelled text) :=
  inferInstanceAs (Decidable (_ = _))

instance {P : QueryKey → Prop} [DecidablePred P] : Decidable (∀ key, P key) :=
  decidable_of_iff (P .fromZone ∧ P .toZone ∧ P .protocol ∧ P .port)
    ⟨fun ⟨hfrom, hto, hprotocol, hport⟩ key => by cases key <;> assumption,
      fun h => ⟨h .fromZone, h .toZone, h .protocol, h .port⟩⟩

/-- No text is the word for two keys. -/
theorem eq_of_isSpelled {key other : QueryKey} {text : String} (h : key.IsSpelled text)
    (hother : other.IsSpelled text) : key = other := by
  have hsame : key.word.toList.map Char.toLower = other.word.toList.map Char.toLower :=
    (beq_iff_eq.mp h).symm.trans (beq_iff_eq.mp hother)
  cases key <;> cases other <;> first | rfl | exact absurd hsame (by decide)

end QueryKey

/-- A key as it was typed, and a value that is not itself a key. -/
structure Clause where
  key : QueryKey
  spelling : String
  value : String
  spelled : key.IsSpelled spelling
  plain : ∀ other : QueryKey, ¬ other.IsSpelled value

/-- The two words of the clause. -/
def Clause.words (c : Clause) : List String := [c.spelling, c.value]

/-- The clauses about other keys. -/
def leaveOut (key : QueryKey) (clauses : List Clause) : List Clause :=
  clauses.filter fun c => c.key ≠ key

/-- The question that the clauses make. -/
def asked (clauses : List Clause) : Query := Query.ofWords (clauses.flatMap Clause.words)

/-- The value of a key is that of the first clause about it. -/
theorem valueOf?_clauses (key : QueryKey) (clauses : List Clause) :
    valueOf? key.word (clauses.flatMap Clause.words) =
      (clauses.find? fun c => c.key = key).map Clause.value := by
  induction clauses with
  | nil => rfl
  | cons c rest ih =>
    rw [List.flatMap_cons, Clause.words, List.cons_append, List.cons_append, List.nil_append,
      valueOf?, List.find?_cons]
    by_cases hkey : c.key = key
    · subst hkey
      have hspelled : Text.equalIgnoringCase c.spelling c.key.word = true := c.spelled
      rw [if_pos hspelled]
      simp
    · have hspelling : ¬ Text.equalIgnoringCase c.spelling key.word = true :=
        fun h => hkey (QueryKey.eq_of_isSpelled c.spelled h)
      have hvalue : ¬ Text.equalIgnoringCase c.value key.word = true := c.plain key
      -- the value is passed over as well, for it is no key
      rw [if_neg hspelling, valueOf?, if_neg hvalue, ih]
      simp [hkey]

/-- The question without what it asks about a key. -/
def Query.without (q : Query) : QueryKey → Query
  | .fromZone => { q with fromZone := none }
  | .toZone => { q with toZone := none }
  | .protocol => { q with protocol := none }
  | .port => { q with port := none }

/-- Leaving out a key takes nothing from the other ones. -/
theorem find?_leaveOut (key other : QueryKey) (clauses : List Clause) :
    (leaveOut key clauses).find? (fun c => c.key = other) =
      if other = key then none else clauses.find? fun c => c.key = other := by
  rw [leaveOut, List.find?_filter]
  split
  next heq =>
    subst heq
    rw [List.find?_eq_none]
    simp
  next hne =>
    congr 1
    funext c
    by_cases hc : c.key = other
    · simp [hc, hne]
    · simp [hc]

/-- Without the clauses about a key, the question is the same in all else. -/
theorem asked_leaveOut (key : QueryKey) (clauses : List Clause) :
    asked (leaveOut key clauses) = (asked clauses).without key := by
  have hvalue : ∀ other : QueryKey,
      valueOf? other.word ((leaveOut key clauses).flatMap Clause.words) =
        if other = key then none else valueOf? other.word (clauses.flatMap Clause.words) := by
    intro other
    rw [valueOf?_clauses, valueOf?_clauses, find?_leaveOut]
    split <;> rfl
  have hfrom := hvalue .fromZone
  have hto := hvalue .toZone
  have hprotocol := hvalue .protocol
  have hport := hvalue .port
  simp only [QueryKey.word] at hfrom hto hprotocol hport
  cases key <;> simp [asked, Query.ofWords, Query.without, hfrom, hto, hprotocol, hport]

/-! ## Rules -/

/-- A rule is about a port that a question without one does not give. -/
def NeedsPort (key : QueryKey) (q : Query) (p : Policy) : Prop :=
  key = .port ∧ q.protocol.isSome = true ∧ p.port.isSome = true

instance (key : QueryKey) (q : Query) (p : Policy) : Decidable (NeedsPort key q p) :=
  inferInstanceAs (Decidable (_ ∧ _))

theorem zoneCovers_none (zone : String) : zoneCovers zone none = true := by
  simp [zoneCovers]

/-- A rule whose selectors take in those of a question takes in those of the question without a
    key, unless the key is the port, and the rule needs it. -/
theorem selectorCovers_without {q : Query} {p : Policy} (h : selectorCovers p q = true)
    (key : QueryKey) : selectorCovers p (q.without key) = true ↔ ¬ NeedsPort key q p := by
  obtain ⟨fromZone, toZone, protocol, port⟩ := q
  cases key with
  | fromZone => exact iff_of_true h fun hneeds => nomatch hneeds.1
  | toZone => exact iff_of_true h fun hneeds => nomatch hneeds.1
  | protocol =>
    refine iff_of_true ?_ fun hneeds => nomatch hneeds.1
    cases protocol with
    | none => exact h
    | some t =>
      -- the port that was asked for is still the port of the rule
      simp only [selectorCovers, Policy.covers, Bool.and_eq_true] at h
      obtain ⟨-, hport⟩ := h
      cases port with
      | none => rfl
      | some a =>
        cases hp : p.port with
        | none => simp [selectorCovers, Query.without, hp]
        | some b =>
          rw [hp] at hport
          have hsame : b = a := beq_iff_eq.mp hport
          simp [selectorCovers, Query.without, hp, hsame]
  | port =>
    cases protocol with
    | none => exact iff_of_true rfl fun hneeds => nomatch hneeds.2.1
    | some t =>
      simp only [selectorCovers, Policy.covers, Bool.and_eq_true] at h
      cases hp : p.port <;>
        simp [selectorCovers, Query.without, NeedsPort, Policy.covers, hp, h.1]

/-- A rule that takes in a question takes in the question without a key, unless the key is the port,
    and the rule needs it. -/
theorem ruleCovers_without {q : Query} {p : Policy} (h : ruleCovers q p = true)
    (key : QueryKey) : ruleCovers (q.without key) p = true ↔ ¬ NeedsPort key q p := by
  simp only [ruleCovers, Bool.and_eq_true] at h ⊢
  obtain ⟨⟨hfrom, hto⟩, hselector⟩ := h
  rw [← selectorCovers_without hselector key]
  refine and_iff_right ?_
  cases key with
  | fromZone => exact ⟨zoneCovers_none p.fromZone, hto⟩
  | toZone => exact ⟨hfrom, zoneCovers_none p.toZone⟩
  | protocol => exact ⟨hfrom, hto⟩
  | port => exact ⟨hfrom, hto⟩

/-- The position of the rule that answers a question. -/
def answeredAt? (d : Device) (q : Query) : Option Nat := d.policies.findIdx? (ruleCovers q)

/-- If the rule that answers a question takes in another one, that one is answered by it or by a
    rule in front of it. -/
theorem answeredAt?_of_covers {d : Device} {q other : Query} {i : Nat}
    (h : answeredAt? d q = some i)
    (hother : ∀ p, d.policies[i]? = some p → ruleCovers q p = true → ruleCovers other p = true) :
    ∃ j ≤ i, answeredAt? d other = some j := by
  obtain ⟨hi, hp, -⟩ := List.findIdx?_eq_some_iff_getElem.mp h
  have hcovers : ruleCovers other d.policies[i] = true :=
    hother _ (List.getElem?_eq_getElem hi) hp
  have hsome : (answeredAt? d other).isSome = true := by
    rw [answeredAt?, List.findIdx?_isSome, List.any_eq_true]
    exact ⟨d.policies[i], List.getElem_mem hi, hcovers⟩
  obtain ⟨j, hj⟩ := Option.isSome_iff_exists.mp hsome
  obtain ⟨_, _, hbefore⟩ := List.findIdx?_eq_some_iff_getElem.mp hj
  refine ⟨j, Nat.le_of_not_lt fun hlt => ?_, hj⟩
  exact hbefore i hlt hcovers

/-! ## Lines -/

/-- The words of a line that asks. -/
def askingWords (clauses : List Clause) : List String :=
  "test" :: "security-policy-match" :: clauses.flatMap Clause.words

theorem dispatch_asking (context : List Frame) (words : List String) :
    dispatch .user context ("test" :: "security-policy-match" :: words) table =
      .done (.command (.testPolicy (Text.words (Text.joinWith " " words)))) := by
  have helements : (Pattern.ofText "test security-policy-match [args...]").elements =
      [.keyword "test" false, .keyword "security-policy-match" false, .rest "args" true] := by
    decide
  rw [dispatch_anywhere table_anywhere [], dispatch_fromWord]
  cases words with
  | nil => rfl
  | cons w rest =>
    have hm : (Pattern.ofText "test security-policy-match [args...]").matches
        ("test" :: "security-policy-match" :: w :: rest) =
        .full (SortedMap.empty.insert "args" (Text.joinWith " " (w :: rest))) := by
      rw [Pattern.matches, helements, align_keyword (by decide), align_keyword (by decide),
        align_rest_cons _ _ _ (List.cons_ne_nil w rest), align_nil]
    exact dispatch_cons_of_full (r := Rule.on _ _ _) rfl hm _

/-- A line that asks prints the answer to its clauses, and does nothing else. -/
theorem interpret_asking {d : Device} (hfamily : d.family = .paloAlto) (hmode : d.mode = .user)
    {line : String} {clauses : List Clause} (hline : Text.words line = askingWords clauses)
    (devices : Inventory) :
    d.interpret devices line = (Dialect.echo line d).log (queryReply d (asked clauses)) := by
  have hwords : ∀ w ∈ clauses.flatMap Clause.words, Text.IsWord w := by
    intro w hw
    have hmem : w ∈ askingWords clauses := List.mem_cons_of_mem _ (List.mem_cons_of_mem _ hw)
    exact Text.isWord_of_mem_words (hline ▸ hmem)
  have hdone : dispatch d.mode d.context (askingWords clauses) dialect.table =
      .done (.command (.testPolicy (clauses.flatMap Clause.words))) := by
    rw [hmode]
    refine (dispatch_asking d.context _).trans ?_
    rw [Text.words_joinWith hwords]
  exact Dialect.interpret_of_command (speaks hfamily) hline (by decide) (by decide) hdone devices

/-- **A key that is left out restricts nothing, but for the port of a protocol.** Two lines that
    ask, the second one without the clauses about a key, are answered by the first rules that take
    in what they ask. A rule that takes in the first question takes in the second one exactly if it
    does not need the port that was left out. So a question that some rule answers is answered by
    that rule or one in front of it without the key, if that rule does not need the port. -/
theorem omitted_key {d : Device} (hfamily : d.family = .paloAlto) (hmode : d.mode = .user)
    {line shorter : String} {clauses : List Clause} {key : QueryKey}
    (hline : Text.words line = askingWords clauses)
    (hshorter : Text.words shorter = askingWords (leaveOut key clauses)) :
    (∀ devices,
      d.interpret devices line = (Dialect.echo line d).log (queryReply d (asked clauses)) ∧
      d.interpret devices shorter =
        (Dialect.echo shorter d).log (queryReply d (asked (leaveOut key clauses)))) ∧
    (∀ p ∈ d.policies, ruleCovers (asked clauses) p = true →
      (ruleCovers (asked (leaveOut key clauses)) p = true ↔
        ¬ NeedsPort key (asked clauses) p)) ∧
    (∀ i, answeredAt? d (asked clauses) = some i →
      (∀ p, d.policies[i]? = some p → ¬ NeedsPort key (asked clauses) p) →
      ∃ j ≤ i, answeredAt? d (asked (leaveOut key clauses)) = some j) := by
  refine ⟨fun devices => ⟨?_, ?_⟩, fun p _ hp => ?_, fun i hi hfree => ?_⟩
  · exact interpret_asking hfamily hmode hline devices
  · exact interpret_asking hfamily hmode hshorter devices
  · rw [asked_leaveOut]
    exact ruleCovers_without hp key
  · refine answeredAt?_of_covers hi fun p hp hcovers => ?_
    rw [asked_leaveOut]
    exact (ruleCovers_without hcovers key).mpr (hfree p hp)

/-- The rules of a small firewall: mail from the one zone, secure web pages from the other. -/
def smallRulebase : Device :=
  { id := "fw", name := "fw", kind := .firewall, vendor := .paloAlto
    policies :=
      [{ id := 1, name := "mail", fromZone := "DMZ", toZone := "UNTRUST", action := .allow
         protocol := some .tcp },
        { id := 2, name := "web", fromZone := "TRUST", toZone := "UNTRUST", action := .allow
          protocol := some .tcp, port := some 443 }] }

/-- What is asked about a secure web page. -/
def webClauses : List Clause :=
  [⟨.fromZone, "From", "TRUST", by decide, by decide⟩,
    ⟨.toZone, "to", "UNTRUST", by decide, by decide⟩,
    ⟨.protocol, "protocol", "6", by decide, by decide⟩,
    ⟨.port, "destination-port", "443", by decide, by decide⟩]

theorem words_webClauses :
    Text.words "test security-policy-match From TRUST to UNTRUST protocol 6 destination-port 443" =
      askingWords webClauses := by
  decide

/-- Without the zone that it comes from, the question about a web page is answered by a rule in
    front. -/
theorem omitted_key_zone :
    smallRulebase.family = .paloAlto ∧ smallRulebase.mode = .user ∧
    Text.words "test security-policy-match From TRUST to UNTRUST protocol 6 destination-port 443" =
      askingWords webClauses ∧
    Text.words "test security-policy-match to UNTRUST protocol 6 destination-port 443" =
      askingWords (leaveOut .fromZone webClauses) ∧
    answeredAt? smallRulebase (asked webClauses) = some 1 ∧
    ∃ j ≤ 1, answeredAt? smallRulebase (asked (leaveOut .fromZone webClauses)) = some j := by
  have hshorter : Text.words
      "test security-policy-match to UNTRUST protocol 6 destination-port 443" =
      askingWords (leaveOut .fromZone webClauses) := by decide
  have hanswered : answeredAt? smallRulebase (asked webClauses) = some 1 := by decide
  have hlaws := omitted_key (d := smallRulebase) rfl rfl words_webClauses hshorter
  exact ⟨rfl, rfl, words_webClauses, hshorter, hanswered,
    hlaws.2.2 1 hanswered fun _ _ hneeds => nomatch hneeds.1⟩

/-- With the port the question is answered by the rule for web pages. Once the port is left out, no
    rule answers it. -/
theorem omitted_port_misses :
    (smallRulebase.interpret SortedMap.empty
      "test security-policy-match From TRUST to UNTRUST protocol 6 destination-port 443").history =
      ["admin@fw> test security-policy-match From TRUST to UNTRUST protocol 6 " ++
          "destination-port 443",
        "Access allowed by policy \"web\" from TRUST to UNTRUST"] ∧
    (smallRulebase.interpret SortedMap.empty
      "test security-policy-match From TRUST to UNTRUST protocol 6").history =
      ["admin@fw> test security-policy-match From TRUST to UNTRUST protocol 6",
        "No matching security rule found (implicit deny)"] ∧
    answeredAt? smallRulebase (asked webClauses) = some 1 ∧
    answeredAt? smallRulebase (asked (leaveOut .port webClauses)) = none := by
  have hshorter : Text.words "test security-policy-match From TRUST to UNTRUST protocol 6" =
      askingWords (leaveOut .port webClauses) := by decide
  rw [interpret_asking rfl rfl words_webClauses, interpret_asking rfl rfl hshorter]
  decide

end TrainingLab.PanOs
