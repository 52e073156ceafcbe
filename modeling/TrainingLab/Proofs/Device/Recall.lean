import TrainingLab.Device.Connected
import TrainingLab.Device.Prompt
import TrainingLab.Proofs.Text.Marks

/-
  How commands are read off a history. An entry counts if it begins like a prompt: with the hostname
  that the device has now, or as on the consoles of two other families. Then the command is what
  follows the first mark. So an entry without a mark gives none, a prompt alone gives none, and the
  echo of a line gives the line, if the hostname begins the prompt before it.

  Proved:
  * `enteredCommands_eq`: every entry is read on its own.
  * `recalled?_of_plain`, `recalled?_prompt`, `recalled?_echo`: what the entries of a console give.
-/

namespace TrainingLab

open Text

/-- A hostname that begins nothing but prompts: it has no mark, it is on one line, and it is neither
    empty nor indented. -/
structure PlainHostname (name : String) : Prop where
  unmarked : Unmarked name
  oneLine : '\n' ∉ name.toList
  flush : ∃ c, name.toList.head? = some c ∧ c ≠ ' '

theorem PlainHostname.of_word {name : String} (hword : IsWord name) (hname : Unmarked name) :
    PlainHostname name := by
  refine ⟨hname, hword.1.feed_not_mem, ?_⟩
  cases hchars : name.toList with
  | nil => exact absurd (String.toList_eq_nil_iff.mp hchars) hword.2
  | cons c cs =>
    refine ⟨c, rfl, ?_⟩
    rintro rfl
    exact absurd (hword.1 ' ' (hchars ▸ List.mem_cons_self)) (by decide)

namespace Device

/-! ## One entry -/

/-- The text begins like a prompt of the hostname, or of a console that prompts for a user. -/
def recognises (hostname text : String) : Bool :=
  begins hostname text || begins "root@" text || begins "admin@" text

/-- The command that an entry repeats, indented as it is listed. -/
def recalled? (hostname entry : String) : Option String :=
  if recognises hostname entry then
    (splitFirst? isMark entry).bind fun (_, command) =>
      if trim command == "" then none else some ("  " ++ trim command)
  else none

/-- The commands entered are read off the entries one by one. -/
theorem enteredCommands_eq (d : Device) :
    d.enteredCommands = d.history.filterMap (recalled? d.name) :=
  List.filterMap_filter

theorem recalled?_of_unrecognised {hostname entry : String}
    (h : recognises hostname entry = false) : recalled? hostname entry = none := by
  rw [recalled?, if_neg (by rw [h]; exact Bool.false_ne_true)]

theorem recalled?_of_unmarked (hostname : String) {entry : String} (h : Unmarked entry) :
    recalled? hostname entry = none := by
  rw [recalled?, splitFirst?_of_unmarked h, Option.bind_none, ite_self]

/-- What has no mark and is not indented does not begin an indented entry. -/
theorem recognises_of_indented {hostname entry : String} (hname : PlainHostname hostname)
    (h : entry.toList.head? = some ' ') : recognises hostname entry = false := by
  have hflush : ∀ {start : String}, (∃ c, start.toList.head? = some c ∧ c ≠ ' ') →
      begins start entry = false := by
    rintro start ⟨c, hc, hspace⟩
    rw [begins, Bool.eq_false_iff, Ne, List.isPrefixOf_iff_prefix]
    rintro ⟨more, hmore⟩
    obtain ⟨cs, hcs⟩ := List.head?_eq_some_iff.mp hc
    rw [hcs] at hmore
    rw [← hmore] at h
    exact hspace (Option.some.inj h)
  rw [recognises, hflush hname.flush, hflush ⟨'r', rfl, by decide⟩, hflush ⟨'a', rfl, by decide⟩]
  rfl

theorem recalled?_of_plain {hostname entry : String} (hname : PlainHostname hostname)
    (h : Plain entry) : recalled? hostname entry = none := by
  rcases h with h | h
  · exact recalled?_of_unmarked hostname h
  · exact recalled?_of_unrecognised (recognises_of_indented hname h)

/-- What is recalled is indented, and on one line if the entry is. -/
theorem indented_of_recalled? {hostname entry text : String}
    (h : recalled? hostname entry = some text) (hfeed : '\n' ∉ entry.toList) :
    text.toList.head? = some ' ' ∧ '\n' ∉ text.toList := by
  obtain ⟨_, h⟩ := Option.ite_none_right_eq_some.mp h
  obtain ⟨⟨start, command⟩, hsplit, h⟩ := Option.bind_eq_some_iff.mp h
  obtain ⟨_, h⟩ := Option.ite_none_left_eq_some.mp h
  cases h
  obtain ⟨⟨before, after⟩, hcut, hparts⟩ := Option.map_eq_some_iff.mp hsplit
  cases hparts
  refine ⟨by simp, feed_not_mem_append (by decide) fun hmem => hfeed ?_⟩
  have hafter := subset_trim _ hmem
  rw [String.toList_ofList] at hafter
  exact (suffix_of_cutFirst hcut).subset hafter

/-! ## The echo of a line -/

/-- A text that ends with its only mark. -/
def IsPrompt (text : String) : Prop :=
  ∃ start mark, text = start ++ String.singleton mark ∧ Unmarked start ∧ isMark mark = true

/-- A prompt of IOS ends with its only mark. -/
theorem isPrompt_prompt {d : Device} (hfamily : d.family = .cisco) (hname : Unmarked d.name) :
    IsPrompt d.prompt := by
  have hmark : ∀ mode, ∃ start mark, iosMark mode = start ++ String.singleton mark ∧
      Unmarked start ∧ isMark mark = true := by
    intro mode
    cases mode with
    | user => exact ⟨"", '>', rfl, .fixed rfl, rfl⟩
    | privileged => exact ⟨"", '#', rfl, .fixed rfl, rfl⟩
    | config => exact ⟨"(config)", '#', rfl, .fixed rfl, rfl⟩
    | configInterface => exact ⟨"(config-if)", '#', rfl, .fixed rfl, rfl⟩
    | configRouter => exact ⟨"(config-router)", '#', rfl, .fixed rfl, rfl⟩
    | configVlan => exact ⟨"(config-vlan)", '#', rfl, .fixed rfl, rfl⟩
    | edit => exact ⟨"", '>', rfl, .fixed rfl, rfl⟩
  obtain ⟨start, mark, heq, hstart, hmark⟩ := hmark d.mode
  refine ⟨d.name ++ start, mark, ?_, hname.append hstart, hmark⟩
  rw [prompt, hfamily]
  show d.name ++ iosMark d.mode = _
  rw [heq, String.append_assoc]

variable {hostname prompt : String}

/-- A prompt alone repeats no command. -/
theorem recalled?_prompt (h : IsPrompt prompt) : recalled? hostname prompt = none := by
  obtain ⟨start, mark, rfl, hstart, hmark⟩ := h
  have hsplit : splitFirst? isMark (start ++ String.singleton mark) = some (start, "") := by
    have hwhole := splitFirst?_at_mark hstart hmark ""
    rwa [String.append_empty] at hwhole
  rw [recalled?, hsplit]
  exact ite_self _

/-- What is behind a prompt does not matter for whether it begins with a text without marks. -/
theorem recognises_behind (hname : Unmarked hostname) (h : IsPrompt prompt) (more : String) :
    recognises hostname (prompt ++ more) = recognises hostname prompt := by
  obtain ⟨start, mark, rfl, _, hmark⟩ := h
  rw [recognises, recognises, begins_up_to_mark hname start hmark,
    begins_up_to_mark (.fixed rfl) start hmark, begins_up_to_mark (.fixed rfl) start hmark]

/-- The echo of a line repeats it, if the hostname begins its prompt. -/
theorem recalled?_echo (hname : Unmarked hostname) (h : IsPrompt prompt) {line : String}
    (hline : trim line ≠ "") : recalled? hostname (prompt ++ " " ++ trim line) =
      if recognises hostname prompt then some ("  " ++ trim line) else none := by
  have hrecognises := recognises_behind hname h (" " ++ trim line)
  have hassoc : prompt ++ " " ++ trim line = prompt ++ (" " ++ trim line) := String.append_assoc
  obtain ⟨start, mark, rfl, hstart, hmark⟩ := h
  rw [hassoc, recalled?, hrecognises, splitFirst?_at_mark hstart hmark, Option.bind_some]
  simp [trim_space_trim, hline]

end Device

end TrainingLab
