import TrainingLab.Dialect.FortiOs.Table
import TrainingLab.Proofs.Dialect.Typing
import TrainingLab.Proofs.SortedMap
import TrainingLab.Proofs.Text.Decimal

/-
  The stack of edited objects on FortiOS. Frames hold names, ids and positions as texts, while the
  objects they stand for come and go. A frame never outlives its object, because the table takes a
  deletion in a section alone and a setting in an object alone.

  Proved:
  * `admitted_of_done`: where on the stack the table takes which command.
  * `nested_run`: no command leaves a frame on the stack for which there is no object.
  * `nested_apply`, `nested_runAll`: neither does an action, nor a run of any length.
  * `holds_lines`: where a device has been given several policies of one id, lines still keep a
    policy for the frame.
-/

namespace TrainingLab.FortiOs

open Grammar Device

/-! ## Objects -/

/-- The sections that can be opened. -/
def sections : List String := [interfaces, policies, staticRoutes, ospf]

namespace ObjectKind

/-- The kind of its frame. -/
def frameKind : ObjectKind → FrameKind
  | interface => .interface
  | policy => .policyObject
  | route => .staticRoute

/-- The section it is edited in. -/
def home : ObjectKind → String
  | interface => interfaces
  | policy => policies
  | route => staticRoutes

theorem home_mem_sections (k : ObjectKind) : k.home ∈ sections := by cases k <;> decide

theorem home_inj {k k' : ObjectKind} (h : k.home = k'.home) : k = k' := by
  revert h
  cases k <;> cases k' <;> decide

theorem frameKind_inj {k k' : ObjectKind} (h : k.frameKind = k'.frameKind) : k = k' := by
  revert h
  cases k <;> cases k' <;> decide

theorem frameKind_ne_section (k : ObjectKind) : k.frameKind ≠ .configSection := by
  cases k <;> decide

/-- The name stands for an object of the device: an interface by its name, the only policy of an
    id, or a route by its position, which is counted from one. -/
def Names (k : ObjectKind) (d : Device) (name : String) : Prop :=
  match k with
  | interface => d.interfaces.contains name = true
  | policy => ∃ id : UInt32, name = toString id ∧ (d.policies.map Policy.id).count id = 1
  | route => ∃ n : Nat, name = toString n ∧ 1 ≤ n ∧ n ≤ d.routes.length

end ObjectKind

/-! ## The stack -/

/-- The stack is empty, a section, or an object in its section. Of the objects, a policy has one of
    the given ids. -/
inductive Stacked (ids : List UInt32) : List Frame → Prop
  | top : Stacked ids []
  | opened {name : String} : Stacked ids [⟨.configSection, name⟩]
  | object {k : ObjectKind} {name : String}
      (h : k = .policy → ∃ id : UInt32, name = toString id ∧ id ∈ ids) :
      Stacked ids [⟨k.frameKind, name⟩, ⟨.configSection, k.home⟩]

namespace Stacked

variable {ids : List UInt32} {context : List Frame}

/-- What is directly inside a section is not in an object. -/
theorem eq_of_inSection {name : String} (h : Stacked ids context)
    (hin : (Scope.inSection name).covers context = true) :
    context = [⟨.configSection, name⟩] := by
  cases h with
  | top => cases hin
  | opened =>
    simp only [Scope.covers, List.head?_cons, Option.any_some, isSection, beq_self_eq_true,
      Bool.true_and, beq_iff_eq] at hin
    rw [hin]
  | @object k _ _ =>
    simp [Scope.covers, isSection, k.frameKind_ne_section] at hin

theorem tail (h : Stacked ids context) : Stacked ids context.tail := by
  cases h with
  | top => exact .top
  | opened => exact .top
  | object _ => exact .opened

/-- An object on top of the stack is open in the section of its kind. -/
theorem eq_of_head {k : ObjectKind} {name : String} (h : Stacked ids context)
    (hhead : context.head? = some ⟨k.frameKind, name⟩) :
    context = [⟨k.frameKind, name⟩, ⟨.configSection, k.home⟩] ∧
      (k = .policy → ∃ id : UInt32, name = toString id ∧ id ∈ ids) := by
  cases h with
  | top => cases hhead
  | opened =>
    obtain ⟨hkind, _⟩ := Frame.mk.inj (Option.some.inj hhead)
    exact absurd hkind.symm k.frameKind_ne_section
  | @object k' _ hthere =>
    obtain ⟨hkind, rfl⟩ := Frame.mk.inj (Option.some.inj hhead)
    cases ObjectKind.frameKind_inj hkind
    exact ⟨rfl, hthere⟩

end Stacked

/-- The stack is empty, a section, or an object of the device in its section. -/
inductive Nesting (d : Device) : List Frame → Prop
  | top : Nesting d []
  | opened {name : String} (h : name ∈ sections) : Nesting d [⟨.configSection, name⟩]
  | object {k : ObjectKind} {name : String} (h : k.Names d name) :
      Nesting d [⟨k.frameKind, name⟩, ⟨.configSection, k.home⟩]

/-- The objects being edited are there, no two policies have one id, and nothing is staged. -/
structure Nested (d : Device) : Prop where
  context : Nesting d d.context
  ids : (d.policies.map Policy.id).Nodup
  live : d.candidate = none

namespace Nesting

variable {d : Device} {context : List Frame}

theorem stacked (h : Nesting d context) : Stacked (d.policies.map Policy.id) context := by
  cases h with
  | top => exact .top
  | opened _ => exact .opened
  | @object k _ hnames =>
    refine .object fun hpolicy => ?_
    subst hpolicy
    obtain ⟨id, hname, hcount⟩ := hnames
    exact ⟨id, hname, List.count_pos_iff.mp (by omega)⟩

/-- What is directly inside a section is not in an object. -/
theorem eq_of_inSection {name : String} (h : Nesting d context)
    (hin : (Scope.inSection name).covers context = true) :
    context = [⟨.configSection, name⟩] :=
  h.stacked.eq_of_inSection hin

/-- What is inside an object of a section is in an object of the kind that belongs there. -/
theorem eq_of_inObject {k : ObjectKind} (h : Nesting d context)
    (hin : (Scope.inObject k.home).covers context = true) :
    ∃ name, context = [⟨k.frameKind, name⟩, ⟨.configSection, k.home⟩] ∧ k.Names d name := by
  cases h with
  | top => cases hin
  | opened _ => cases hin
  | @object k' name hnames =>
    have hhome : k'.home = k.home := by
      simpa [Scope.covers, isSection, k'.frameKind_ne_section] using hin
    cases ObjectKind.home_inj hhome
    exact ⟨name, rfl, hnames⟩

/-- One level up there is no object, whatever has become of the device. -/
theorem tail {d' : Device} (h : Nesting d context) : Nesting d' context.tail := by
  cases h with
  | top => exact .top
  | opened _ => exact .top
  | @object k _ _ => exact .opened k.home_mem_sections

end Nesting

/-! ## Steps that keep the objects -/

/-- Every object is still there, and the console is where it was. -/
structure KeepsObjects (d d' : Device) : Prop where
  context : d'.context = d.context
  candidate : d'.candidate = d.candidate
  interfaces : ∀ name, d.interfaces.contains name = true → d'.interfaces.contains name = true
  ids : d'.policies.map Policy.id = d.policies.map Policy.id
  routes : d'.routes.length = d.routes.length

theorem ObjectKind.Names.keep {k : ObjectKind} {d d' : Device} {name : String}
    (h : k.Names d name) (hkeep : KeepsObjects d d') : k.Names d' name := by
  cases k with
  | interface => exact hkeep.interfaces name h
  | policy =>
    unfold Names
    rw [hkeep.ids]
    exact h
  | route =>
    unfold Names
    rw [hkeep.routes]
    exact h

theorem Nesting.keep {d d' : Device} {context : List Frame} (h : Nesting d context)
    (hkeep : KeepsObjects d d') : Nesting d' context := by
  cases h with
  | top => exact .top
  | opened hname => exact .opened hname
  | object hnames => exact .object (hnames.keep hkeep)

theorem Nested.keep {d d' : Device} (h : Nested d) (hkeep : KeepsObjects d d') : Nested d' where
  context := hkeep.context ▸ h.context.keep hkeep
  ids := hkeep.ids ▸ h.ids
  live := hkeep.candidate.trans h.live

namespace KeepsObjects

variable {d d' : Device}

theorem of_forget (h : d'.forget = d.forget) : KeepsObjects d d' where
  context := eq_of_forget Device.context (fun _ => rfl) h
  candidate := eq_of_forget Device.candidate (fun _ => rfl) h
  interfaces := fun name hname =>
    (eq_of_forget (fun e => e.interfaces.contains name) (fun _ => rfl) h).trans hname
  ids := eq_of_forget (fun e => e.policies.map Policy.id) (fun _ => rfl) h
  routes := eq_of_forget (fun e => e.routes.length) (fun _ => rfl) h

theorem printed (d : Device) (texts : List String) : KeepsObjects d (d.logAll texts) :=
  of_forget (forget_logAll d texts)

theorem logged (d : Device) (text : String) : KeepsObjects d (d.log text) :=
  of_forget (forget_log d text)

theorem trans {d'' : Device} (h : KeepsObjects d d') (h' : KeepsObjects d' d'') :
    KeepsObjects d d'' where
  context := h'.context.trans h.context
  candidate := h'.candidate.trans h.candidate
  interfaces := fun name hname => h'.interfaces name (h.interfaces name hname)
  ids := h'.ids.trans h.ids
  routes := h'.routes.trans h.routes

theorem of_editInterface (d : Device) (name : String) (f : Interface → Interface) :
    KeepsObjects d (d.editInterface name f) where
  context := rfl
  candidate := rfl
  interfaces := fun other hother => by
    rw [Device.editInterface, SortedMap.contains_insert, hother, ite_self]
  ids := rfl
  routes := rfl

end KeepsObjects

theorem map_id_editFirst {f : Policy → Policy} (hf : ∀ p, (f p).id = p.id) (id : UInt32)
    (l : List Policy) : (editFirst id f l).map Policy.id = l.map Policy.id := by
  induction l with
  | nil => rfl
  | cons p rest ih =>
    rw [editFirst]
    split
    next => rw [List.map_cons, hf, List.map_cons]
    next => rw [List.map_cons, ih, List.map_cons]

theorem keepsObjects_editInterface (f : Interface → Interface) (d : Device) :
    KeepsObjects d (editInterface f d) := by
  unfold editInterface
  split
  next name _ => exact .of_editInterface d name f
  next => exact .logged d parseError

theorem keepsObjects_editPolicy {f : Policy → Policy} (hf : ∀ p, (f p).id = p.id) (d : Device) :
    KeepsObjects d (editPolicy f d) := by
  unfold editPolicy
  split
  next id _ =>
    split
    next =>
      exact ⟨rfl, rfl, fun _ hname => hname, map_id_editFirst hf id d.policies, rfl⟩
    next => exact .logged d parseError
  next => exact .logged d parseError

theorem keepsObjects_editRoute (f : Route → Route) (d : Device) :
    KeepsObjects d (editRoute f d) := by
  unfold editRoute
  split
  next n _ =>
    split
    next =>
      exact ⟨rfl, rfl, fun _ hname => hname, rfl, List.length_modify f d.routes (n - 1)⟩
    next => exact .logged d parseError
  next => exact .logged d parseError

theorem Setting.keepsObjects {k : ObjectKind} {f : Device → Device} (h : Setting k f)
    (d : Device) : KeepsObjects d (f d) := by
  cases h with
  | rejected _ => exact .logged d _
  | interface f => exact keepsObjects_editInterface f d
  | policy hf => exact keepsObjects_editPolicy hf d
  | route f => exact keepsObjects_editRoute f d

/-! ## Steps that open or delete an object -/

variable {d : Device}

/-- Opening an object that there is, in its section. -/
theorem Nested.push {k : ObjectKind} {name : String} {d' : Device} (h : Nested d)
    (hcontext : d'.context = [⟨k.frameKind, name⟩, ⟨.configSection, k.home⟩])
    (hnames : k.Names d' name) (hids : (d'.policies.map Policy.id).Nodup)
    (hcandidate : d'.candidate = d.candidate) : Nested d' where
  context := hcontext ▸ .object hnames
  ids := hids
  live := hcandidate.trans h.live

/-- A section stays open whatever happens to its objects. -/
theorem Nested.inSection {k : ObjectKind} {d' : Device} (h : Nested d)
    (hcontext : d'.context = [⟨.configSection, k.home⟩])
    (hids : (d'.policies.map Policy.id).Nodup) (hcandidate : d'.candidate = d.candidate) :
    Nested d' where
  context := hcontext ▸ .opened k.home_mem_sections
  ids := hids
  live := hcandidate.trans h.live

theorem nested_openInterface (h : Nested d)
    (hin : d.context = [⟨.configSection, interfaces⟩]) (name : String) :
    Nested (openInterface name d) := by
  refine h.push (k := .interface) (congrArg (_ :: ·) hin) ?_ h.ids rfl
  exact (SortedMap.contains_insert _ _ _ _).trans (if_pos rfl)

theorem nodup_ids_append {l : List Policy} (h : (l.map Policy.id).Nodup) {p : Policy}
    (hnew : p.id ∉ l.map Policy.id) : ((l ++ [p]).map Policy.id).Nodup := by
  rw [List.map_append, List.nodup_append]
  refine ⟨h, List.pairwise_singleton _ _, fun a ha b hb hab => hnew ?_⟩
  rw [← List.mem_singleton.mp hb, ← hab]
  exact ha

/-- Where ids are distinct, a policy is the only one of its id. -/
theorem names_of_mem (h : (d.policies.map Policy.id).Nodup) {id : UInt32}
    (hid : id ∈ d.policies.map Policy.id) : ObjectKind.policy.Names d (toString id) :=
  ⟨id, rfl, by rw [h.count, if_pos hid]⟩

theorem nested_openPolicy (h : Nested d) (hin : d.context = [⟨.configSection, policies⟩])
    (id : String) : Nested (openPolicy id d) := by
  have hpush : ∀ (l : List Policy) (n : UInt32), (l.map Policy.id).Nodup → n ∈ l.map Policy.id →
      Nested (({ d with policies := l }).push .policyObject (toString n)) :=
    fun l n hids hn => h.push (k := .policy) (congrArg (_ :: ·) hin) (names_of_mem hids hn) hids rfl
  rcases openPolicy_cases id d with hopen | ⟨n, hn, hopen⟩ | ⟨n, hn, hopen⟩
  · exact hopen ▸ h.keep (.logged d parseError)
  · exact hopen ▸ hpush d.policies n h.ids hn
  · exact hopen ▸ hpush _ n (nodup_ids_append h.ids hn) (by simp)

theorem nested_openRoute (h : Nested d) (hin : d.context = [⟨.configSection, staticRoutes⟩])
    (position : String) : Nested (openRoute position d) := by
  unfold openRoute
  split
  next => exact h.keep (.logged d parseError)
  next n _ =>
    split
    next =>
      exact h.push (k := .route) (congrArg (_ :: ·) hin)
        ⟨(d.routes ++ [_]).length, rfl, by simp, Nat.le_refl _⟩ h.ids rfl
    next hinside =>
      exact h.push (k := .route) (congrArg (_ :: ·) hin)
        ⟨n, rfl, by omega, show n ≤ d.routes.length by omega⟩ h.ids rfl

theorem nested_deleteInterface (h : Nested d)
    (hin : d.context = [⟨.configSection, interfaces⟩]) (name : String) :
    Nested (deleteInterface name d) := by
  unfold deleteInterface
  split
  next => exact h.inSection (k := .interface) hin h.ids rfl
  next => exact h.keep (.logged d notFound)

theorem nested_deletePolicy (h : Nested d) (hin : d.context = [⟨.configSection, policies⟩])
    (id : String) : Nested (deletePolicy id d) := by
  unfold deletePolicy
  dsimp only
  split
  next => exact h.keep (.logged d notFound)
  next =>
    exact h.inSection (k := .policy) hin (h.ids.sublist (List.filter_sublist.map Policy.id)) rfl

theorem nested_deleteRoute (h : Nested d) (hin : d.context = [⟨.configSection, staticRoutes⟩])
    (position : String) : Nested (deleteRoute position d) := by
  unfold deleteRoute
  split
  next n _ =>
    split
    next => exact h.inSection (k := .route) hin h.ids rfl
    next => exact h.keep (.logged d notFound)
  next => exact h.keep (.logged d notFound)

theorem nested_next (h : Nested d) (devices : Inventory) : Nested (Command.next.run devices d) := by
  rw [Command.run]
  split
  next => exact ⟨h.context.tail, h.ids, h.live⟩
  next => exact h

/-! ## Commands -/

/-- The kind of object that a command opens or deletes. -/
def Command.manages? : Command → Option ObjectKind
  | openInterface _ => some .interface
  | deleteInterface _ => some .interface
  | openPolicy _ => some .policy
  | deletePolicy _ => some .policy
  | openRoute _ => some .route
  | deleteRoute _ => some .route
  | _ => none

/-- The rules of a scope may stand for the command: a section is one of those there are, objects are
    opened and deleted in their section, and changed from inside. -/
def Command.suits (c : Command) (scope : Scope) : Bool :=
  (match c with
    | openSection name => sections.contains name
    | _ => true) &&
  c.manages?.all (fun k => scope == .inSection k.home) &&
  c.sets?.all (fun k => scope == .inObject k.home)

theorem table_suits :
    ∀ r ∈ table, ∀ caps, ∃ c, r.meaning caps = .command c ∧ c.suits r.scope = true := by
  simp only [table, List.forall_mem_cons]
  repeat apply And.intro (fun _ => ⟨_, rfl, rfl⟩)
  exact List.forall_mem_nil _

/-- The command is one that the table takes with this stack of edited objects. -/
structure Command.Admitted (c : Command) (context : List Frame) : Prop where
  opens : ∀ name, c = .openSection name → name ∈ sections
  manages : ∀ k, c.manages? = some k → (Scope.inSection k.home).covers context = true
  sets : ∀ k, c.sets? = some k → (Scope.inObject k.home).covers context = true

theorem Command.admitted_of_suits {c : Command} {scope : Scope} {context : List Frame}
    (h : c.suits scope = true) (hcovers : scope.covers context = true) : c.Admitted context := by
  simp only [suits, Bool.and_eq_true] at h
  obtain ⟨⟨hopens, hmanages⟩, hsets⟩ := h
  refine ⟨?_, ?_, ?_⟩
  · rintro name rfl
    exact List.contains_iff_mem.mp hopens
  · intro k hk
    rw [hk, Option.all_some, beq_iff_eq] at hmanages
    exact hmanages ▸ hcovers
  · intro k hk
    rw [hk, Option.all_some, beq_iff_eq] at hsets
    exact hsets ▸ hcovers

/-- What the table makes of a line is a command that suits the stack of edited objects. -/
theorem admitted_of_done {mode : Mode} {context : List Frame} {tokens : List String}
    {m : Request Command} (h : dispatch mode context tokens table = .done m) :
    ∃ c, m = .command c ∧ c.Admitted context := by
  obtain ⟨r, hr, happ, caps, rfl⟩ := exists_rule_of_done h
  obtain ⟨c, hc, hsuits⟩ := table_suits r hr caps
  exact ⟨c, hc, Command.admitted_of_suits hsuits (Bool.and_eq_true_iff.mp happ).2⟩

/-- No command that the table takes leaves a frame for which there is no object. -/
theorem nested_run {c : Command} (h : Nested d) (hc : c.Admitted d.context)
    (devices : Inventory) : Nested (c.run devices d) := by
  have hin : ∀ {k}, c.manages? = some k → d.context = [⟨.configSection, k.home⟩] :=
    fun hk => h.context.eq_of_inSection (hc.manages _ hk)
  cases c with
  | openSection name => exact ⟨.opened (hc.opens name rfl), h.ids, h.live⟩
  | next => exact nested_next h devices
  | leave => exact ⟨.top, h.ids, h.live⟩
  | openInterface name => exact nested_openInterface h (hin rfl) _
  | openPolicy id => exact nested_openPolicy h (hin rfl) id
  | openRoute position => exact nested_openRoute h (hin rfl) position
  | deleteInterface name => exact nested_deleteInterface h (hin rfl) _
  | deletePolicy id => exact nested_deletePolicy h (hin rfl) id
  | deleteRoute position => exact nested_deleteRoute h (hin rfl) position
  | accept => exact h
  | setAddress | setCidr | clearAddress | setStatus | setAlias | setZone | setName | setFromZone
  | setToZone | setSource | setDestinationAddress | setAction | setService | setDestination
  | setDestinationPrefix | setGateway | setDevice =>
    exact h.keep ((setting_run rfl devices).keepsObjects d)
  | _ => exact h.keep (.of_forget (forget_run_of_inspects rfl devices d))

/-! ## Actions -/

theorem nested_interpret (h : Nested d) (help : List String) (devices : Inventory)
    (line : String) : Nested (dialect.interpret help devices line d) := by
  refine Dialect.kept_interpret (fun text h => h.keep (.logged _ text)) ?_ h help
  intro d m h hdone
  obtain ⟨c, rfl, hc⟩ := admitted_of_done hdone
  exact nested_run h hc devices

/-- An edit in the graphical view changes interfaces that there are, and has nothing to commit. -/
theorem nested_applyEdit (h : Nested d) (hfamily : d.family = .fortinet) (e : GuiEdit) :
    Nested (d.applyEdit e) := by
  cases e with
  | interface name e =>
    have hstages : d.stagesEdits = false := by rw [stagesEdits, hfamily]; rfl
    simp only [applyEdit, applyInterfaceEdit, hstages, Bool.false_eq_true, if_false]
    split
    next => exact h.keep (.logged d _)
    next => exact h.keep ((KeepsObjects.of_editInterface d name e.apply).trans (.logged _ _))
  | commit =>
    have hnothing : d.hasPendingChanges = false := by rw [hasPendingChanges, h.live]
    have hdiscard : KeepsObjects d d.discard :=
      ⟨rfl, h.live.symm, fun _ hname => hname, rfl, rfl⟩
    rw [applyEdit, commit, hnothing]
    exact h.keep (hdiscard.trans (.logged _ _))

theorem nested_apply (h : Nested d) (hfamily : d.family = .fortinet) (devices : Inventory)
    (a : Action) : Nested (a.apply devices d) := by
  cases a with
  | line text =>
    unfold Action.apply Device.interpret
    rw [hfamily]
    exact nested_interpret h _ devices text
  | edit e => exact nested_applyEdit h hfamily e

/-- Along every run of lines and edits there is an object for every frame. -/
theorem nested_runAll (h : Nested d) (hfamily : d.family = .fortinet)
    (actions : List (Inventory × Action)) : Nested (d.run actions) := by
  induction actions generalizing d with
  | nil => exact h
  | cons i rest ih =>
    have hstep : Nested (i.2.apply i.1 d) := nested_apply h hfamily i.1 i.2
    exact ih hstep ((i.2.family_apply i.1 d).trans hfamily)

/-! ## Where ids repeat -/

/-- The objects being edited are in their sections, and a policy being edited is there. -/
def Holds (d : Device) : Prop := Stacked (d.policies.map Policy.id) d.context

namespace Holds

variable {d d' : Device}

theorem keep (h : Holds d) (hkeep : KeepsObjects d d') : Holds d' := by
  unfold Holds
  rw [hkeep.ids, hkeep.context]
  exact h

theorem openPolicy (h : Holds d) (hin : d.context = [⟨.configSection, policies⟩]) (id : String) :
    Holds (openPolicy id d) := by
  -- whichever policy is pushed, it is one of those that there are by then
  have hpush : ∀ (l : List Policy) (n : UInt32), n ∈ l.map Policy.id →
      Holds (({ d with policies := l }).push .policyObject (toString n)) := by
    intro l n hn
    have hstack : (({ d with policies := l }).push .policyObject (toString n)).context =
        [⟨ObjectKind.policy.frameKind, toString n⟩, ⟨.configSection, ObjectKind.policy.home⟩] :=
      congrArg (_ :: ·) hin
    unfold Holds
    rw [hstack]
    exact .object fun _ => ⟨n, rfl, hn⟩
  rcases openPolicy_cases id d with hopen | ⟨n, hn, hopen⟩ | ⟨n, _, hopen⟩
  · exact hopen ▸ h.keep (.logged d parseError)
  · exact hopen ▸ hpush d.policies n hn
  · exact hopen ▸ hpush _ n (by simp)

theorem openRoute (h : Holds d) (hin : d.context = [⟨.configSection, staticRoutes⟩])
    (position : String) : Holds (openRoute position d) := by
  have hpush : ∀ (routes : List Route) (n : String),
      Holds (({ d with routes }).push .staticRoute n) := by
    intro routes n
    have hstack : (({ d with routes }).push .staticRoute n).context =
        [⟨ObjectKind.route.frameKind, n⟩, ⟨.configSection, ObjectKind.route.home⟩] :=
      congrArg (_ :: ·) hin
    unfold Holds
    rw [hstack]
    exact .object nofun
  unfold FortiOs.openRoute
  split
  next => exact h.keep (.logged d parseError)
  next =>
    split
    next => exact hpush _ _
    next => exact hpush d.routes _

theorem openInterface (hin : d.context = [⟨.configSection, interfaces⟩]) (name : String) :
    Holds (openInterface name d) := by
  have hstack : (FortiOs.openInterface name d).context =
      [⟨ObjectKind.interface.frameKind, name⟩, ⟨.configSection, ObjectKind.interface.home⟩] :=
    congrArg (_ :: ·) hin
  unfold Holds
  rw [hstack]
  exact .object nofun

/-- A section stays open whatever happens to its objects. -/
theorem inSection {name : String} (hin : d.context = [⟨.configSection, name⟩]) : Holds d := by
  unfold Holds
  rw [hin]
  exact .opened

theorem context_deleteInterface (name : String) (d : Device) :
    (deleteInterface name d).context = d.context := by
  unfold deleteInterface
  split <;> rfl

theorem context_deletePolicy (id : String) (d : Device) :
    (deletePolicy id d).context = d.context := by
  unfold deletePolicy
  dsimp only
  split <;> rfl

theorem context_deleteRoute (position : String) (d : Device) :
    (deleteRoute position d).context = d.context := by
  unfold deleteRoute
  split
  next => split <;> rfl
  next => rfl

/-- No command that the table takes leaves a policy on the stack that is not there. -/
theorem run {c : Command} (h : Holds d) (hc : c.Admitted d.context) (devices : Inventory) :
    Holds (c.run devices d) := by
  have hin : ∀ {k}, c.manages? = some k → d.context = [⟨.configSection, k.home⟩] :=
    fun hk => h.eq_of_inSection (hc.manages _ hk)
  cases c with
  | openSection name => exact .opened
  | next =>
    rw [Command.run]
    split
    next => exact h.tail
    next => exact h
  | leave => exact .top
  | openInterface name => exact openInterface (hin rfl) _
  | openPolicy id => exact h.openPolicy (hin rfl) id
  | openRoute position => exact h.openRoute (hin rfl) position
  | deleteInterface name => exact inSection ((context_deleteInterface _ d).trans (hin rfl))
  | deletePolicy id => exact inSection ((context_deletePolicy id d).trans (hin rfl))
  | deleteRoute position => exact inSection ((context_deleteRoute position d).trans (hin rfl))
  | accept => exact h
  | setAddress | setCidr | clearAddress | setStatus | setAlias | setZone | setName | setFromZone
  | setToZone | setSource | setDestinationAddress | setAction | setService | setDestination
  | setDestinationPrefix | setGateway | setDevice =>
    exact h.keep ((setting_run rfl devices).keepsObjects d)
  | _ => exact h.keep (.of_forget (forget_run_of_inspects rfl devices d))

end Holds

/-- Along any lines, the stack is in order. -/
theorem holds_lines {d : Device} (hfamily : d.family = .fortinet) (h : Holds d)
    (lines : List (Inventory × String)) : Holds (d.enterLines lines) := by
  refine Dialect.kept_lines (P := Holds) ?_ hfamily h lines
  intro d hfamily h devices line
  obtain ⟨help, hinterpret⟩ := speaks hfamily
  rw [hinterpret]
  refine Dialect.kept_interpret (fun text h => h.keep (.logged _ text)) ?_ h help
  intro d m h hdone
  obtain ⟨c, rfl, hc⟩ := admitted_of_done hdone
  exact h.run hc devices

end TrainingLab.FortiOs
