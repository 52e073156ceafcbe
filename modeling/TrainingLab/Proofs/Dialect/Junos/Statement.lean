import TrainingLab.Dialect.Junos.Command
import TrainingLab.Proofs.Device.Operation

/-
  The statements of the configuration mode. A `set` or `delete` line either stages one change or is
  turned down, and which of them, and which change, can be told from the staged view and the objects
  being edited (`Command.change?`). That is all that such a line does (`run_statement`).
-/

namespace TrainingLab.Junos

open Device

/-- The command is a statement: it comes from a `set` or a `delete` line and stages a change. -/
def Command.isStatement : Command → Bool
  | setAddress _ _ _ => true
  | clearAddress _ _ => true
  | describe _ _ => true
  | setUp _ _ => true
  | deleteInterface _ => true
  | setZone _ _ => true
  | clearZone _ => true
  | setEditedZone _ => true
  | clearEditedZone _ => true
  | addRoute _ _ => true
  | addEditedRoute _ => true
  | deleteRoute _ => true
  | setHostname _ => true
  | _ => false

/-- The name of the interface that a target stands for. -/
def Target.name? (d : Device) : Target → Option String
  | named name => some name
  | edited => d.frameName? .interface

/-- The interface that a name stands for, if it is there. -/
def present? (d : Device) (name : String) : Option String :=
  (some (resolve d name none)).filter fun name => (d.stagedInterface? name).isSome

theorem eq_resolve_of_present? {d : Device} {name there : String}
    (h : present? d name = some there) : there = resolve d name none :=
  (Option.some.inj (Option.filter_eq_some_iff.mp h).1).symm

/-- The change of an interface's zone. -/
def zoneChange (name : String) (zone : Option String) : Change :=
  .interface name fun i => i.setZone zone

/-- The change that adds a route. -/
def routeChange (destination nextHop : String) : Change :=
  .routes fun routes =>
    Route.addTo routes { destination := Network.canonicalPrefix destination, nextHop }

/-- The change that a statement stages. Without one it is turned down. -/
def Command.change? (d : Device) : Command → Option Change
  | setAddress target unit cidr =>
    (target.name? d).map fun name => .interface (resolve d name unit) fun i => i.setCidr cidr
  | clearAddress target unit =>
    (target.name? d).map fun name => .interface (resolve d name unit) fun i => i.clearAddress
  | describe target text =>
    (target.name? d).map fun name => .interface (resolve d name none) fun i => i.setDescription text
  | setUp target up =>
    (target.name? d).map fun name => .interface (resolve d name none) fun i => i.setUp up
  | deleteInterface name => (present? d name).map .removal
  | setZone interface zone => some (zoneChange (resolve d interface none) (some zone))
  | clearZone interface => (present? d interface).map (zoneChange · none)
  | setEditedZone interface =>
    (d.frameName? .zone).map fun zone => zoneChange (resolve d interface none) (some zone)
  | clearEditedZone interface =>
    (d.frameName? .zone).bind fun _ => (present? d interface).map (zoneChange · none)
  | addRoute destination nextHop => some (routeChange destination nextHop)
  | addEditedRoute nextHop =>
    (d.frameName? .staticRoute).map fun destination => routeChange destination nextHop
  | deleteRoute destination =>
    let destination := Network.canonicalPrefix destination
    if d.stagedRoutes.any fun r => r.destination == destination then
      some (.routes fun routes => routes.filter fun r => r.destination != destination)
    else none
  | setHostname name => some (.hostname name)
  | _ => none

/-- The text by which a statement is turned down: what it is about is not there, or, before that, no
    object is open that it could be about. -/
def Command.refusal (d : Device) : Command → String
  | deleteInterface _ => notFound
  | clearZone _ => notFound
  | clearEditedZone _ => if (d.frameName? .zone).isSome then notFound else syntaxError
  | deleteRoute _ => notFound
  | _ => syntaxError

theorem stage_eq (target : Target) (unit : Option String) (f : Interface → Interface)
    (d : Device) :
    stage target unit f d =
      ((target.name? d).map fun name => Change.interface (resolve d name unit) f).elim
        (d.log syntaxError) d.stage := by
  cases target with
  | named name => rfl
  | edited =>
    rw [stage, Target.name?]
    cases d.frameName? .interface <;> rfl

theorem releaseZone_eq (name : String) (d : Device) :
    releaseZone name d =
      ((present? d name).map (zoneChange · none)).elim (d.log notFound) d.stage := by
  unfold releaseZone present?
  split
  next hthere =>
    rw [Option.filter_some, if_pos hthere]
    rfl
  next hmissing =>
    rw [Option.filter_some, if_neg hmissing]
    rfl

/-- A statement stages its change, or is turned down. -/
theorem run_statement {c : Command} (h : c.isStatement = true) (devices : Inventory)
    (d : Device) : c.run devices d = (c.change? d).elim (d.log (c.refusal d)) d.stage := by
  cases c with
  | setAddress | clearAddress | describe | setUp => exact stage_eq _ _ _ d
  | deleteInterface name =>
    simp only [Command.run, deleteInterface, Command.change?, present?, Option.filter_some]
    split <;> rfl
  | clearZone interface => exact releaseZone_eq interface d
  | setEditedZone interface =>
    simp only [Command.run, withEditedZone, Command.change?]
    cases d.frameName? .zone <;> rfl
  | clearEditedZone interface =>
    simp only [Command.run, withEditedZone, Command.change?, Command.refusal]
    cases d.frameName? .zone with
    | some zone => exact releaseZone_eq interface d
    | none => rfl
  | addEditedRoute nextHop =>
    simp only [Command.run, Command.change?]
    cases d.frameName? .staticRoute <;> rfl
  | deleteRoute destination =>
    simp only [Command.run, deleteRoute, Command.change?]
    split <;> rfl
  | setZone | addRoute | setHostname => rfl
  | _ => cases h

/-- What holds of every change that a statement may stage, and of being turned down, holds of the
    statement. -/
theorem statement_induction {c : Command} (h : c.isStatement = true) (devices : Inventory)
    {d : Device} {P : Device → Prop} (hstaged : ∀ change, c.change? d = some change →
      P (d.stage change)) (hrefused : ∀ text, P (d.log text)) : P (c.run devices d) := by
  rw [run_statement h]
  cases hchange : c.change? d with
  | some change => exact hstaged change hchange
  | none => exact hrefused (c.refusal d)

/-! ## What a statement leaves alone -/

theorem stage_prepend (earlier : List String) (d : Device) (change : Change) :
    (d.prepend earlier).stage change = (d.stage change).prepend earlier := by
  cases change <;> rfl

theorem change?_prepend (earlier : List String) (d : Device) (c : Command) :
    c.change? (d.prepend earlier) = c.change? d := by
  cases c <;> rfl

theorem refusal_prepend (earlier : List String) (d : Device) (c : Command) :
    c.refusal (d.prepend earlier) = c.refusal d := by
  cases c <;> rfl

/-- Staging a change leaves everything alone but the candidate. -/
theorem stage_eq_candidate (d : Device) (change : Change) :
    d.stage change = { d with candidate := (d.stage change).candidate } := by
  cases change <;> rfl

end TrainingLab.Junos
