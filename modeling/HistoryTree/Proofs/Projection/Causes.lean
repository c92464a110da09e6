import HistoryTree.Projection.Registry
import HistoryTree.Proofs.Projection.Index

/-!
# Causes that are left to the expansion

Whether an execution lies below itself, or too deep, is for the guards of the expansion to
find out.  A registry that `LeavesGuards` has no handler that fails for such a cause, as the
standard one (`Registry.standard_leavesGuards`); the steps from which handlers are made spare
these causes as well.
-/

namespace HistoryTree

/-- Whether a cause is one that the guards in front of an expansion look for. -/
def ProjectionError.isGuard : ProjectionError → Bool
  | tooDeep .. | cycle _ => true
  | _ => false

/-- A step that never fails for a cause. -/
def Step.Spares {α : Type} (step : Step α) (cause : ProjectionError) : Prop :=
  ∀ p q, step p ≠ .error cause q

/-- No handler fails for a cause. -/
def Registry.Spares (r : Registry) (cause : ProjectionError) : Prop :=
  ∀ t handler, r.handler? t = some handler → ∀ e, (handler e).Spares cause

/-- No handler fails for a cycle. -/
def Registry.ReportsNoCycle (r : Registry) : Prop :=
  ∀ y, r.Spares (.cycle y)

/-- No handler fails for an execution that lies too deep. -/
def Registry.ReportsNoDepth (r : Registry) : Prop :=
  ∀ y limit, r.Spares (.tooDeep y limit)

/-- No handler fails for what the guards look for. -/
def Registry.LeavesGuards (r : Registry) : Prop :=
  ∀ cause, cause.isGuard = true → r.Spares cause

namespace Step.Spares

variable {α β : Type} {cause : ProjectionError}

theorem pure (a : α) : Spares (pure a : Step α) cause := by
  intro p q h
  cases h

theorem throw {other : ProjectionError} (hne : other ≠ cause) :
    Spares (throw other : Step α) cause := by
  intro p q h
  cases h
  exact hne rfl

/-- Steps that spare a cause, one behind the other, spare it. -/
theorem bind {step : Step α} {f : α → Step β} (hstep : step.Spares cause)
    (hf : ∀ a, (f a).Spares cause) : (step >>= f).Spares cause := by
  intro p q h
  cases hp : step p with
  | ok a p' =>
    rw [Step.bind_of_ok hp] at h
    exact hf a p' q h
  | error other p' =>
    rw [Step.bind_of_error hp] at h
    cases h
    exact hstep p q hp

variable (hguard : cause.isGuard = true)

include hguard

theorem create (event : EventId) (t : Task) : (Projection.create event t).Spares cause := by
  intro p q h
  obtain ⟨-, rfl, -⟩ := Projection.create_eq_error_iff.1 h
  cases hguard

theorem update (event reference : EventId) (change : Task → Except Violation Task) :
    (Projection.update event reference change).Spares cause := by
  intro p q h
  rcases (Projection.update_eq_error_iff.1 h).2 with ⟨-, rfl⟩ | ⟨_, _, _, -, -, rfl⟩
  · cases hguard
  · cases hguard

theorem find (event reference : EventId) : (Projection.find event reference).Spares cause := by
  intro p q h
  rw [Projection.find] at h
  split at h
  · cases h
  · cases h
    cases hguard

theorem setStatus (event : EventId) (next : GroupStatus) :
    (Projection.setStatus event next).Spares cause := by
  intro p q h
  rw [Projection.setStatus] at h
  split at h
  · cases h
  · cases h
    cases hguard

theorem attachChild (event reference : EventId) (child : TaskGroup) :
    (Projection.attachChild event reference child).Spares cause :=
  (update hguard event reference _).bind fun _ => update hguard event reference _

theorem unexpected (expected : EventType) (e : HistoryEvent) :
    (Rule.unexpected expected e : Step α).Spares cause := by
  refine throw ?_
  rintro rfl
  cases hguard

/-- No rule fails for what the guards look for; what it does fail for concerns tasks and statuses.
-/
theorem rule (expected : EventType) (r : Rule) (e : HistoryEvent) :
    (r.apply expected e).Spares cause := by
  cases r with
  | moveGroup next => exact (setStatus hguard e.id next).bind fun _ => pure _
  | schedule =>
    rw [Rule.apply]
    split
    · exact unexpected hguard expected e
    · exact (create hguard e.id _).bind fun _ => pure _
  | startTimer =>
    exact (create hguard e.id _).bind fun _ => (update hguard e.id e.id _).bind fun _ => pure _
  | moveTask next =>
    rw [Rule.apply]
    split
    · exact unexpected hguard expected e
    · exact (update hguard e.id _ _).bind fun _ => pure _
  | startChild =>
    rw [Rule.apply]
    split
    · refine (find hguard e.id _).bind fun found => ?_
      dsimp only
      split
      · refine throw ?_
        rintro rfl
        cases hguard
      · exact pure _
    · exact unexpected hguard expected e

end Step.Spares

namespace Registry

variable {r : Registry} {cause : ProjectionError}

/-- The standard handlers leave cycles and depth to the guards. -/
theorem standard_leavesGuards : standard.LeavesGuards := by
  intro cause hguard t handler hhandler e
  obtain ⟨r, -, rfl⟩ := Option.map_eq_some_iff.1 hhandler
  rw [Rule.handler]
  split
  · exact .rule hguard t r e
  · exact .unexpected hguard t e

/-- An event without handler is passed over, so handlers that spare a cause are all that counts. -/
theorem Spares.dispatch (hr : r.Spares cause) (e : HistoryEvent) : (r.dispatch e).Spares cause := by
  rw [Registry.dispatch]
  split
  · rename_i handler hhandler
    exact hr e.type handler hhandler e
  · exact .pure _

theorem standard_reportsNoCycle : standard.ReportsNoCycle :=
  fun y => standard_leavesGuards (.cycle y) rfl

theorem standard_reportsNoDepth : standard.ReportsNoDepth :=
  fun y limit => standard_leavesGuards (.tooDeep y limit) rfl

end Registry

end HistoryTree
