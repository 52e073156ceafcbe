import TrainingLab.Dialect.FortiOs.Command
import TrainingLab.Proofs.Device.Operation

/-
  What the commands of FortiOS do. All of them are orderly (`orderly_run`), so they do the same
  whatever the history (`sameEffect_run`), and none that turns something down changes anything
  (`atomic_run`). Those that inspect do nothing but print (`forget_run_of_inspects`), the others do
  not look at the other devices (`run_eq_of_acts`). Settings are told by what they may do: change
  the object being edited, or turn the value down (`setting_run`). What opening a policy may do is
  said once (`openPolicy_cases`).
-/

namespace TrainingLab.FortiOs

open Device

/-- The texts that turn down a line or a value. -/
def Rejection (text : String) : Prop :=
  text = parseError ∨ text = getError ∨ text = diagnoseError ∨ text = notFound

/-! ## Objects -/

/-- Opening a policy turns the id down, or opens a policy that there is, or puts a blank one at the
    end and opens it. -/
theorem openPolicy_cases (id : String) (d : Device) :
    openPolicy id d = d.log parseError ∨
      (∃ n : UInt32, n ∈ d.policies.map Policy.id ∧
        openPolicy id d = d.push .policyObject (toString n)) ∨
      ∃ n : UInt32, n ∉ d.policies.map Policy.id ∧
        let blank : Policy := { id := n, name := "", fromZone := "", toZone := "", action := .deny }
        openPolicy id d =
          ({ d with policies := d.policies ++ [blank] }).push .policyObject (toString n) := by
  unfold openPolicy
  split
  next => exact .inl rfl
  next =>
    split
    next => exact .inl rfl
    next n _ =>
      have hany : (d.policies.any fun p => p.id == n) = true ↔ n ∈ d.policies.map Policy.id := by
        simp
      dsimp only
      split
      next hthere => exact .inr (.inl ⟨n, hany.mp hthere, rfl⟩)
      next hnew => exact .inr (.inr ⟨n, mt hany.mpr hnew, rfl⟩)

theorem orderly_openPolicy (id : String) : Orderly Rejection (openPolicy id) := by
  unfold openPolicy
  cases Text.readUInt32? id with
  | none => exact .logged parseError
  | some n =>
    intro earlier d
    simp only [policies_prepend]
    cases if n == 0 then Policy.nextId? d.policies else some n with
    | none => exact .logged earlier d parseError
    | some n =>
      by_cases h : (d.policies.any fun p => p.id == n) = true <;> simp only [h, if_true]
      · exact .silent rfl rfl rfl
      · exact .silent rfl rfl rfl

theorem orderly_openRoute (position : String) : Orderly Rejection (openRoute position) := by
  unfold openRoute
  cases Text.readPosition? position with
  | none => exact .logged parseError
  | some n =>
    refine .choice (p := fun d => n = 0 ∨ d.routes.length < n) (fun _ _ => Iff.rfl) ?_ ?_
    · exact .silent fun _ _ => ⟨rfl, rfl, rfl⟩
    · exact .silent fun _ _ => ⟨rfl, rfl, rfl⟩

theorem orderly_deleteInterface (name : String) : Orderly Rejection (deleteInterface name) := by
  refine .choice (p := fun d => d.interfaces.contains name) (fun _ _ => Iff.rfl) ?_
    (.logged notFound)
  exact .silent fun _ _ => ⟨rfl, rfl, rfl⟩

theorem orderly_deletePolicy (id : String) : Orderly Rejection (deletePolicy id) := by
  refine .choice
    (p := fun d => (d.policies.filter fun p => some p.id != Text.readUInt32? id).length =
      d.policies.length)
    (fun _ _ => Iff.rfl) (.logged notFound) ?_
  exact .silent fun _ _ => ⟨rfl, rfl, rfl⟩

theorem orderly_deleteRoute (position : String) : Orderly Rejection (deleteRoute position) := by
  unfold deleteRoute
  cases Text.readPosition? position with
  | none => exact .logged notFound
  | some n =>
    refine .choice (p := fun d => 1 ≤ n ∧ n ≤ d.routes.length) (fun _ _ => Iff.rfl) ?_
      (.logged notFound)
    exact .silent fun _ _ => ⟨rfl, rfl, rfl⟩

/-! ## Settings -/

theorem orderly_editInterface (f : Interface → Interface) :
    Orderly Rejection (editInterface f) := by
  intro earlier d
  simp only [editInterface, frameName?_prepend]
  cases d.frameName? .interface with
  | some name => exact .silent rfl rfl rfl
  | none => exact .logged earlier d parseError

theorem orderly_editPolicy (f : Policy → Policy) : Orderly Rejection (editPolicy f) := by
  intro earlier d
  simp only [editPolicy, frameName?_prepend, policies_prepend]
  cases (d.frameName? .policyObject).bind Text.readUInt32? with
  | none => exact .logged earlier d parseError
  | some id =>
    by_cases h : (d.policies.any fun p => p.id == id) = true <;> simp only [h, if_true]
    · exact .silent rfl rfl rfl
    · exact .logged earlier d parseError

theorem orderly_editRoute (f : Route → Route) : Orderly Rejection (editRoute f) := by
  intro earlier d
  simp only [editRoute, frameName?_prepend, routes_prepend]
  cases (d.frameName? .staticRoute).bind Text.readPosition? with
  | none => exact .logged earlier d parseError
  | some n =>
    by_cases h : 1 ≤ n ∧ n ≤ d.routes.length <;> simp only [h, if_false]
    · exact .silent rfl rfl rfl
    · exact .logged earlier d parseError

/-- What can be edited in a section. -/
inductive ObjectKind
  | interface
  | policy
  | route
deriving DecidableEq

/-- A setting of an object of the kind: it changes the object being edited, or turns the value
    down. The id of a policy is not a setting. -/
inductive Setting : ObjectKind → (Device → Device) → Prop
  | rejected {k : ObjectKind} {text : String} (h : Rejection text) : Setting k fun d => d.log text
  | interface (f : Interface → Interface) : Setting .interface (editInterface f)
  | policy {f : Policy → Policy} (hf : ∀ p, (f p).id = p.id) : Setting .policy (editPolicy f)
  | route (f : Route → Route) : Setting .route (editRoute f)

theorem setting_setStatus (status : String) : Setting .interface (setStatus status) := by
  unfold setStatus
  split
  · exact .interface _
  · exact .interface _
  · exact .rejected (.inl rfl)

theorem setting_setAction (action : String) : Setting .policy (setAction action) := by
  unfold setAction
  split
  · exact .policy fun _ => rfl
  · exact .policy fun _ => rfl
  · exact .rejected (.inl rfl)

theorem setting_setService (services : String) : Setting .policy (setService services) := by
  unfold setService
  dsimp only
  split
  · exact .policy fun _ => rfl
  · exact .rejected (.inr (.inr (.inr rfl)))

theorem setting_setDestination (destination : Option Network.Cidr) :
    Setting .route (setDestination destination) := by
  cases destination with
  | some net => exact .route _
  | none => exact .rejected (.inl rfl)

/-- The kind of object that a command makes a setting of. -/
def Command.sets? : Command → Option ObjectKind
  | setAddress _ _ => some .interface
  | setCidr _ => some .interface
  | clearAddress => some .interface
  | setStatus _ => some .interface
  | setAlias _ => some .interface
  | setZone _ => some .interface
  | setName _ => some .policy
  | setFromZone _ => some .policy
  | setToZone _ => some .policy
  | setSource _ => some .policy
  | setDestinationAddress _ => some .policy
  | setAction _ => some .policy
  | setService _ => some .policy
  | setDestination _ _ => some .route
  | setDestinationPrefix _ => some .route
  | setGateway _ => some .route
  | setDevice _ => some .route
  | _ => none

theorem setting_run {c : Command} {k : ObjectKind} (h : c.sets? = some k)
    (devices : Inventory) : Setting k (c.run devices) := by
  cases c <;> cases h
  case setStatus status => exact setting_setStatus status
  case setAction action => exact setting_setAction action
  case setService services => exact setting_setService services
  case setDestination ip mask => exact setting_setDestination _
  case setDestinationPrefix cidr => exact setting_setDestination _
  case setAddress | setCidr | clearAddress | setAlias | setZone => exact .interface _
  case setName | setFromZone | setToZone | setSource | setDestinationAddress =>
    exact .policy fun _ => rfl
  case setGateway | setDevice => exact .route _

theorem Setting.orderly {k : ObjectKind} {f : Device → Device} (h : Setting k f) :
    Orderly Rejection f := by
  cases h with
  | rejected _ => exact .logged _
  | interface f => exact orderly_editInterface f
  | policy _ => exact orderly_editPolicy _
  | route f => exact orderly_editRoute f

/-! ## Commands -/

/-- All commands are orderly. -/
theorem orderly_run (c : Command) (devices : Inventory) : Orderly Rejection (c.run devices) := by
  cases c with
  | accept | openSection | leave | openInterface => exact .silent fun _ _ => ⟨rfl, rfl, rfl⟩
  | next =>
    refine .choice (p := fun d => d.frame?.any fun f => f.kind != .configSection)
      (fun _ _ => Iff.rfl) ?_ ?_
    · exact .silent fun _ _ => ⟨rfl, rfl, rfl⟩
    · exact .silent fun _ _ => ⟨rfl, rfl, rfl⟩
  | openPolicy id => exact orderly_openPolicy id
  | openRoute position => exact orderly_openRoute position
  | deleteInterface name => exact orderly_deleteInterface _
  | deletePolicy id => exact orderly_deletePolicy id
  | deleteRoute position => exact orderly_deleteRoute position
  | setAddress | setCidr | clearAddress | setStatus | setAlias | setZone | setName | setFromZone
  | setToZone | setSource | setDestinationAddress | setAction | setService | setDestination
  | setDestinationPrefix | setGateway | setDevice => exact (setting_run rfl devices).orderly
  | _ => exact .printed fun _ _ => rfl

/-- No command both turns something down and changes something. -/
theorem atomic_run (c : Command) (devices : Inventory) (d : Device) :
    Atomic Rejection d (c.run devices d) := (orderly_run c devices).atomic d

/-! ## Inspection -/

/-- The command prints, and does nothing else. -/
def Command.inspects : Command → Bool
  | print _ => true
  | showOpen => true
  | ping _ => true
  | getInterfaces => true
  | getArp => true
  | getRoutes => true
  | showInterfaces => true
  | showPolicies => true
  | showRoutes => true
  | _ => false

theorem forget_run_of_inspects {c : Command} (h : c.inspects = true) (devices : Inventory)
    (d : Device) : (c.run devices d).forget = d.forget := by
  cases c with
  | print | showOpen | ping | getInterfaces | getArp | getRoutes | showInterfaces | showPolicies
  | showRoutes => exact forget_logAll d _
  | _ => cases h

/-- A command that does more than print does not look at the other devices. -/
theorem run_eq_of_acts {c : Command} (h : c.inspects = false) (devices others : Inventory) :
    c.run devices = c.run others := by
  cases c <;> first | rfl | cases h

/-- Apart from what it prints, a command does the same whatever the history and the other
    devices. -/
theorem sameEffect_run (c : Command) (devices others : Inventory) :
    SameEffect (c.run devices) (c.run others) := by
  cases h : c.inspects with
  | true => exact .of_forget (forget_run_of_inspects h devices) (forget_run_of_inspects h others)
  | false =>
    rw [run_eq_of_acts h devices others]
    exact (orderly_run c others).sameEffect

end TrainingLab.FortiOs
