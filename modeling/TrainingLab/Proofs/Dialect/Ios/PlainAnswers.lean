import TrainingLab.Proofs.Dialect.History
import TrainingLab.Proofs.Dialect.Ios.Listable
import TrainingLab.Proofs.Dialect.Ios.Marks

/-
  Answers without prompts. A line without marks makes a command whose texts have none, for captures
  are pieces of the line. On a device without marks such a command prints nothing that is a prompt
  with a command behind it, and leaves a device without marks. So does the line, whatever it is: a
  blank one, a question for help, one that carries another, or one that is turned down.

  Proved:
  * `Pattern.unmarked_captures`: what is captured from words without marks.
  * `table_unmarked`: the commands of the table, their fixed texts included.
  * `Device.Unmarked.interpret`: what a line leaves.
  * `printsPlain_run`, `history_interpret_plain`: what a command and a line print.
-/

namespace TrainingLab

open Grammar Device

/-! ## Captures -/

namespace Grammar

/-- What is bound are words of the line, or the words at its end joined by spaces. -/
theorem Alignment.source_of_binding {es : List Element} {tokens : List String} {takes : List Bool}
    {bindings : List (String × String)} (h : Alignment es tokens takes bindings)
    {b : String × String} (hb : b ∈ bindings) :
    b.2 ∈ tokens ∨ ∃ ending, ending <:+ tokens ∧ b.2 = Text.joinWith " " ending := by
  induction h with
  | done => cases hb
  | @word e es token tokens takes bindings _ _ ih =>
    rcases List.mem_append.mp hb with hb | hb
    · cases e with
      | argument name kind optional =>
        cases List.mem_singleton.mp hb
        exact Or.inl List.mem_cons_self
      | _ => cases hb
    · rcases ih hb with hword | ⟨ending, hsuffix, htext⟩
      · exact Or.inl (List.mem_cons_of_mem token hword)
      · exact Or.inr ⟨ending, hsuffix.trans (List.suffix_cons token tokens), htext⟩
  | @rest name optional es tokens takes bindings _ _ ih =>
    rcases List.mem_cons.mp hb with rfl | hb
    · exact Or.inr ⟨tokens, List.suffix_refl tokens, rfl⟩
    · rcases ih hb with hword | ⟨ending, hsuffix, htext⟩
      · cases hword
      · exact Or.inr ⟨ending, hsuffix.trans List.nil_suffix, htext⟩
  | skip _ _ _ ih => exact ih hb

/-- Nothing that is captured has a mark. -/
def Captures.Unmarked (caps : Captures) : Prop :=
  ∀ name text, caps.find? name = some text → Text.Unmarked text

theorem Captures.Unmarked.text {caps : Captures} (h : caps.Unmarked) (name : String) :
    Text.Unmarked (caps.text name) := by
  rw [Captures.text]
  cases hfind : caps.find? name with
  | none => exact .fixed rfl
  | some text => exact h name text hfind

theorem Pattern.unmarked_captures {p : Pattern} (hp : p.Regular) {tokens : List String}
    (hwords : ∀ w ∈ tokens, Text.Unmarked w) {caps : Captures}
    (h : p.matches tokens = .full caps) : caps.Unmarked := by
  obtain ⟨takes, bindings, hpreferred, hcaps⟩ := (Pattern.matches_full_iff hp.distinct).mp h
  intro name text hfind
  rcases hpreferred.1.source_of_binding ((hcaps name text).mp hfind) with
    hword | ⟨ending, hsuffix, htext⟩
  · exact hwords text hword
  · have hjoined : Text.Unmarked (Text.joinWith " " ending) :=
      Text.unmarked_joinWith (.fixed rfl) fun w hw => hwords w (hsuffix.subset hw)
    rwa [← htext] at hjoined

end Grammar

/-! ## Commands -/

namespace Ios

/-- The texts that the command prints or puts into the configuration have no mark. -/
def Command.Unmarked : Command → Prop
  | print lines => ∀ line ∈ lines, Text.LogsPlain line
  | ping text | traceroute text | showInterfaces text | setDescription text | setZone text =>
    ∀ t, text = some t → Text.Unmarked t
  | delete text | setHostname text | enterInterface text | nameVlan text => Text.Unmarked text
  | addRoute _ _ nextHop => Text.Unmarked nextHop
  | setAddress ip mask => Text.Unmarked ip ∧ Text.Unmarked mask
  | _ => True

/-- The texts of the command have no mark, and neither has a carried line. -/
def UnmarkedRequest : Request Command → Prop
  | .command c => c.Unmarked
  | .carried line => Text.Unmarked line

theorem table_unmarked : ∀ r ∈ table, ∀ caps : Captures, caps.Unmarked →
    UnmarkedRequest (r.meaning caps) := by
  simp only [table, List.forall_mem_cons]
  repeat' apply And.intro
  all_goals try exact List.forall_mem_nil _
  all_goals intro caps hcaps
  all_goals try exact trivial
  all_goals try exact hcaps.text _
  all_goals try exact hcaps _
  -- fixed texts: one is indented and has a mark, one is written in two parts
  all_goals try
    show ∀ line ∈ _, Text.LogsPlain line
    repeat first
      | exact List.forall_mem_nil _
      | refine List.forall_mem_cons.mpr ⟨Text.Unmarked.logsPlain ?_, ?_⟩
        · first
          | (with_reducible apply Text.Unmarked.append) <;> exact .fixed rfl
          | exact .fixed rfl
      | refine List.forall_mem_cons.mpr ⟨Text.logsPlain_of_indented rfl (by decide), ?_⟩
  -- what is left are the rules whose texts are made of captures, in the order of the table
  · exact (hcaps.text _).append (hcaps.text _)
  · exact ⟨hcaps.text _, hcaps.text _⟩
  · rintro _ ⟨⟩
    exact hcaps.text _
  · rintro _ ⟨⟩
  · rintro _ ⟨⟩
    exact hcaps.text _
  · rintro _ ⟨⟩

theorem unmarkedRequest_of_done {mode : Mode} {context : List Frame} {tokens : List String}
    {m : Request Command} (hwords : ∀ w ∈ tokens, Text.Unmarked w)
    (h : dispatch mode context tokens table = .done m) : UnmarkedRequest m := by
  obtain ⟨r, caps, hr, hfull, rfl⟩ := dispatch_done_iff.mp h
  have hmem := List.mem_of_find?_eq_some hr
  exact table_unmarked r hmem caps (Pattern.unmarked_captures (table_regular r hmem) hwords hfull)

/-! ## What is left -/

/-- Devices without marks, as a standard. -/
def unmarkedStandard : Standard where
  name := PlainHostname
  interface := Text.Unmarked
  settings := Interface.Unmarked
  vlan := Text.Unmarked
  routes rs := ∀ r ∈ rs, Text.Unmarked r.destination ∧ Text.Unmarked r.nextHop
  unconfigured := .unconfigured
  clearAddress h := ⟨.fixed rfl, .fixed rfl, h.zone, h.description⟩
  setUp h _ := ⟨h.ip, h.mask, h.zone, h.description⟩
  setVlan h _ := ⟨h.ip, h.mask, h.zone, h.description⟩
  defaultVlan v := .append (.fixed rfl) ((Text.unmarked_toString v.toNat).padZero 4)
  filter h _ := fun r hr => h r (List.mem_filter.mp hr).1

variable {d : Device} {devices : Inventory} {c : Command} {line : String}

theorem unmarked_iff_meets : d.Unmarked ↔ unmarkedStandard.Meets d :=
  ⟨fun h => ⟨h.name, h.interfaces, h.vlans, h.routes, h.frames⟩,
    fun h => ⟨h.name, h.interfaces, h.vlans, h.routes, h.frames⟩⟩

/-- Commands without marks put none into a configuration. -/
theorem allows_of_unmarked (h : c.Unmarked) (hline : c.FromLine) : unmarkedStandard.Allows c := by
  cases c with
  | setHostname name => exact .of_word hline h
  | enterInterface name => exact h
  | addRoute ip mask nextHop =>
    intro net _ rs hrs r hr
    rcases Route.mem_of_mem_addTo hr with hold | rfl
    · exact hrs r hold
    · exact ⟨net.unmarked_toText, h⟩
  | setAddress ip mask => exact fun hi => ⟨h.1, h.2, hi.zone, hi.description⟩
  | setDescription text =>
    exact fun hi => ⟨hi.ip, hi.mask, hi.zone, fun t ht => h t (nonempty?_eq_some_iff.mp ht).1⟩
  | setZone zone =>
    exact fun hi =>
      ⟨hi.ip, hi.mask, fun z hz => h z (nonempty?_eq_some_iff.mp hz).1, hi.description⟩
  | nameVlan name => exact h
  | _ => exact trivial

end Ios

namespace Device.Unmarked

variable {d d' : Device}

theorem of_forget (h : d.Unmarked) (hsame : d'.forget = d.forget) : d'.Unmarked :=
  Ios.unmarked_iff_meets.mpr ((Ios.unmarked_iff_meets.mp h).of_forget hsame)

/-- A line without marks leaves a device without marks. -/
theorem interpret (h : d.Unmarked) (hfamily : d.family = .cisco) {line : String}
    (hline : Text.Unmarked line) (devices : Inventory) : (d.interpret devices line).Unmarked := by
  rw [Ios.unmarked_iff_meets] at h ⊢
  refine h.interpret hfamily (fun hdone => ?_) devices
  exact Ios.allows_of_unmarked
    (Ios.unmarkedRequest_of_done (fun w hw => hline.of_mem_words hw) hdone)
    (Ios.fromLine_of_done (areWords_words line) hdone)

end Device.Unmarked

/-! ## What is printed -/

namespace Device

/-- The step adds entries to the history none of which is a prompt with a command behind it. -/
def PrintsPlain (d after : Device) : Prop :=
  ∃ entries, after.history = d.history ++ entries ∧ ∀ entry ∈ entries, Text.Plain entry

namespace PrintsPlain

variable {d after last : Device}

theorem silent (h : after.history = d.history) : PrintsPlain d after :=
  ⟨[], by rw [h, List.append_nil], List.forall_mem_nil _⟩

theorem logged {text : String} (h : Text.LogsPlain text) (d : Device) :
    PrintsPlain d (d.log text) :=
  ⟨logLines text, rfl, h⟩

theorem printed {texts : List String} (h : ∀ text ∈ texts, Text.LogsPlain text) (d : Device) :
    PrintsPlain d (d.logAll texts) :=
  ⟨texts.flatMap logLines, history_logAll d texts, List.forall_mem_flatMap.mpr h⟩

theorem trans (h : PrintsPlain d after) (h' : PrintsPlain after last) : PrintsPlain d last := by
  obtain ⟨entries, hentries, hplain⟩ := h
  obtain ⟨more, hmore, hmorePlain⟩ := h'
  refine ⟨entries ++ more, ?_, List.forall_mem_append.mpr ⟨hplain, hmorePlain⟩⟩
  rw [hmore, hentries, List.append_assoc]

end PrintsPlain

theorem singleLines_echoLines (d : Device) (line : String) : SingleLines (d.echoLines line) := by
  intro entry hentry
  unfold echoLines at hentry
  split at hentry
  next => exact Text.feed_not_mem_lines hentry
  next => exact Text.feed_not_mem_lines hentry

end Device

namespace Ios

variable {d : Device} {devices : Inventory} {c : Command} {line : String}

theorem printsPlain_lines {lines : List String} (h : Unmarked lines) (d : Device) :
    PrintsPlain d (d.logAll lines) :=
  .printed (fun line hline => (h line hline).logsPlain) d

/-- The answer to a line that is turned down. -/
theorem printsPlain_reply {text : String} (h : Text.Unmarked text) (d : Device) :
    PrintsPlain d (d.log text) :=
  .logged h.logsPlain d

theorem printsPlain_editInterface (f : Interface → Interface) (d : Device) :
    PrintsPlain d (editInterface f d) := by
  unfold editInterface
  split
  next => exact .silent rfl
  next => exact printsPlain_reply (.fixed rfl) d

theorem printsPlain_setAccessVlan (id : String) (d : Device) :
    PrintsPlain d (setAccessVlan id d) := by
  have hnotice : ∀ v, PrintsPlain d (noticeVlan v d) := by
    intro v
    unfold noticeVlan
    split
    next => exact .silent rfl
    next => exact printsPlain_reply (.append (.fixed rfl) (Text.unmarked_toString v.toNat)) d
  unfold setAccessVlan
  split
  next => exact printsPlain_reply (.fixed rfl) d
  next v _ =>
    split
    next => exact printsPlain_reply (.fixed rfl) d
    next => exact (hnotice v).trans (printsPlain_editInterface _ _)

/-- A command without marks prints nothing that is a prompt with a command behind it. -/
theorem printsPlain_run (h : d.Unmarked) (hhistory : SingleLines d.history)
    (hdevices : devices.Unmarked) (hc : c.Unmarked) : PrintsPlain d (c.run devices d) := by
  have htarget : ∀ {target : Option String}, (∀ t, target = some t → Text.Unmarked t) →
      Text.Unmarked (target.getD "target") := by
    intro target htarget
    cases target with
    | none => exact .fixed rfl
    | some t => exact htarget t rfl
  cases c with
  | print lines => exact .printed hc d
  | accept | enable | disable | setHostname | enterInterface | enterRouter => exact .silent rfl
  | exit =>
    refine .silent ?_
    simp only [Command.run, exitMode]
    split <;> rfl
  | leave =>
    refine .silent ?_
    rw [Command.run]
    split <;> rfl
  | configure => exact .logged (Text.Unmarked.logsPlain (.fixed rfl)) d
  | ping target => exact printsPlain_lines (unmarked_pingReply (htarget hc)) d
  | traceroute target => exact printsPlain_lines (unmarked_traceReply h (htarget hc)) d
  | showHistory =>
    refine .printed (fun text htext => ?_) d
    rw [enteredCommands_eq] at htext
    obtain ⟨entry, hentry, hrecall⟩ := List.mem_filterMap.mp htext
    obtain ⟨hindented, hfeed⟩ := indented_of_recalled? hrecall (hhistory entry hentry)
    exact Text.logsPlain_of_indented hindented hfeed
  | delete target => exact printsPlain_reply (unmarked_deleteReply hc) d
  | showInterfaceBrief => exact printsPlain_lines (unmarked_interfaceBrief h) d
  | showRunningConfig => exact printsPlain_lines (unmarked_runningConfig h) d
  | showStartupConfig => exact printsPlain_lines (unmarked_startupConfig h) d
  | showInterfaces name => exact printsPlain_lines (unmarked_interfaceStates h hc) d
  | showRoutes => exact printsPlain_lines (unmarked_routingTable h) d
  | showArp => exact printsPlain_lines (unmarked_arpTable h hdevices) d
  | showNeighbors detailed =>
    refine printsPlain_lines ?_ d
    split
    next => exact unmarked_neighborDetails h hdevices
    next => exact unmarked_neighborTable h hdevices
  | showVlans => exact printsPlain_lines (unmarked_vlanTable h) d
  | enterVlan id =>
    rw [Command.run, enterVlan]
    split
    next => exact .silent rfl
    next => exact printsPlain_reply (.fixed rfl) d
  | addRoute ip mask nextHop =>
    rw [Command.run, addRoute]
    split
    next => exact .silent rfl
    next => exact printsPlain_reply (.fixed rfl) d
  | removeRoute ip mask nextHop =>
    rw [Command.run, removeRoute]
    split
    next => exact .silent rfl
    next => exact printsPlain_reply (.fixed rfl) d
  | removeVlan id =>
    refine .silent ?_
    rw [Command.run]
    split <;> rfl
  | nameVlan name =>
    rw [Command.run, nameVlan]
    split
    next => exact .silent rfl
    next => exact printsPlain_reply (.fixed rfl) d
  | setAccessVlan id => exact printsPlain_setAccessVlan id d
  | setAddress | clearAddress | setUp | setDescription | clearAccessVlan | setZone =>
    exact printsPlain_editInterface _ d

/-! ### Lines -/

/-- What is printed at the top of the hierarchy is printed below it. -/
theorem printsPlain_carried (mode : Mode) {d after : Device}
    (h : PrintsPlain ((d.enter mode).within []) after) :
    PrintsPlain d ((after.enter d.mode).within d.context) := h

theorem printsPlain_runCarried (h : d.Unmarked) (hhistory : SingleLines d.history)
    (hdevices : devices.Unmarked) (hline : Text.Unmarked line) :
    PrintsPlain d (dialect.runCarried devices line d) := by
  let inner := (d.enter .privileged).within []
  have hinner : inner.Unmarked := ⟨h.name, h.interfaces, h.vlans, h.routes, List.forall_mem_nil _⟩
  unfold Dialect.runCarried
  refine printsPlain_carried .privileged ?_
  split
  next c hc =>
    have hdone := unmarkedRequest_of_done (fun w hw => hline.of_mem_words hw) hc
    exact printsPlain_run hinner hhistory hdevices hdone
  next => exact .silent rfl
  next => exact printsPlain_reply (.fixed rfl) inner
  next => exact printsPlain_reply (.fixed rfl) inner

theorem unmarked_unknown (mode : Mode) : Text.Unmarked (dialect.unknown mode) := by
  show Text.Unmarked (if execModes.contains mode then unknownCommand else invalidInput)
  split
  next => exact .fixed rfl
  next => exact .fixed rfl

theorem printsPlain_act (h : d.Unmarked) (hhistory : SingleLines d.history)
    (hdevices : devices.Unmarked) (hline : Text.Unmarked line) :
    PrintsPlain d (dialect.act devices (dispatch d.mode d.context (Text.words line) table) d) := by
  cases hv : dispatch d.mode d.context (Text.words line) table with
  | done m =>
    have hm := unmarkedRequest_of_done (fun w hw => hline.of_mem_words hw) hv
    cases m with
    | command c => exact printsPlain_run h hhistory hdevices hm
    | carried text => exact printsPlain_runCarried h hhistory hdevices hm
  | incomplete => exact printsPlain_reply (.fixed rfl) d
  | unknown => exact printsPlain_reply (unmarked_unknown d.mode) d

/-- What a question mark shows has no mark. -/
theorem unmarked_helpLines (v : Vendor) : Unmarked (Reference.ios.helpLines v) := by
  have hvendor : Text.Unmarked v.name := by cases v <;> exact .fixed rfl
  have hcategory : ∀ {c : CommandCategory}, Text.Unmarked c.title → Unmarked (c.commands.take 5) →
      Text.Unmarked (Reference.categoryLine c) := fun htitle hcommands =>
    ((htitle.append (.fixed rfl)).append (Text.unmarked_joinWith (.fixed rfl) hcommands)).append
      (.fixed rfl)
  refine (Unmarked.append (.singleton ?_) (List.forall_mem_map.mpr ?_)).append
    (.singleton (.fixed rfl))
  · exact (Text.Unmarked.append (.fixed rfl) hvendor).append (.fixed rfl)
  · simp only [Reference.ios, List.forall_mem_cons]
    repeat
      refine And.intro (hcategory (.fixed rfl) ?_) ?_
      · repeat first
          | exact .nil
          | refine Unmarked.cons (.fixed rfl) ?_
    exact List.forall_mem_nil _

/-- A line without marks is answered by nothing that is a prompt with a command behind it. -/
theorem history_interpret_plain (h : d.Unmarked) (hfamily : d.family = .cisco)
    (hhistory : SingleLines d.history) (hdevices : devices.Unmarked) (hline : Text.Unmarked line) :
    ∃ answer, (d.interpret devices line).history = d.history ++ d.echoLines line ++ answer ∧
      ∀ entry ∈ answer, Text.Plain entry := by
  have hsame : (d.echoed line).forget = d.forget := d.forget_echoed line
  have hechoed : (d.echoed line).Unmarked := h.of_forget hsame
  have hlines : SingleLines (d.echoed line).history := by
    rw [history_echoed]
    exact hhistory.append (d.singleLines_echoLines line)
  have hprints : PrintsPlain (d.echoed line) (d.interpret devices line) := by
    rw [Device.interpret, hfamily]
    dsimp only
    rw [Dialect.interpret_eq_respond]
    unfold Dialect.respond
    split
    next => exact .silent rfl
    next =>
      split
      next => exact printsPlain_lines (unmarked_helpLines d.vendor) _
      next => exact printsPlain_act hechoed hlines hdevices hline
  obtain ⟨answer, hanswer, hplain⟩ := hprints
  exact ⟨answer, by rw [hanswer, history_echoed], hplain⟩

end Ios

end TrainingLab
