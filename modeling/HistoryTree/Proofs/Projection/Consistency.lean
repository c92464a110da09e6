import HistoryTree.Proofs.Projection.Reduced

/-!
# Checks that always pass

The handlers check more than the histories can break.  Some of the checks are on the tables of the
program itself: that an event of a type has what the rule for this type needs, that a timer that
was just created can run, that the sub-tasks of a child are attached to a task that can take them.
A cause `isInternal` if it reports such a check.  The standard handlers never report one
(`Registry.standard_consistent`), and whenever they ask for a child, its tasks can be attached,
whatever they are (`Projection.attachChild_of_checked`).
-/

namespace HistoryTree

/-- Whether a cause reports a check on the handlers themselves: an event without what its type has,
or sub-tasks for a task that has some. -/
def ProjectionError.isInternal : ProjectionError → Bool
  | unexpectedEvent .. | violation _ (.hasSubTasks _) => true
  | _ => false

theorem Step.bind_eq_error_iff {α β : Type} {step : Step α} {f : α → Step β} {p q : Projection}
    {cause : ProjectionError} : (step >>= f) p = .error cause q ↔
      step p = .error cause q ∨ ∃ a p', step p = .ok a p' ∧ f a p' = .error cause q := by
  cases h : step p with
  | ok a p' => simp [Step.bind_of_ok h, and_assoc]
  | error cause' p' => simp [Step.bind_of_error h]

/-! ## Steps that follow a check -/

namespace Projection

variable {p q : Projection} {event event' id : EventId} {slot : Nat} {t u : Task} {name : String}
  {cause : ProjectionError}

theorem resolve?_iff :
    p.resolve? id = some (slot, t) ↔ p.slot? id = some slot ∧ p.group.tasks[slot]? = some t := by
  simp only [resolve?, Option.bind_eq_bind, Option.bind_eq_some_iff, pure]
  constructor
  · rintro ⟨i, hi, u, hu, heq⟩
    obtain ⟨rfl, rfl⟩ : i = slot ∧ u = t := by simpa using heq
    exact ⟨hi, hu⟩
  · rintro ⟨hslot, ht⟩
    exact ⟨slot, hslot, t, ht, rfl⟩

/-- A task that was put in the place of another is found there. -/
theorem resolve?_setTask (h : p.resolve? id = some (slot, t)) (u : Task) :
    (p.setTask slot u).resolve? id = some (slot, u) := by
  obtain ⟨hslot, ht⟩ := resolve?_iff.1 h
  have hlt : slot < p.group.tasks.length := (List.getElem?_eq_some_iff.1 ht).1
  refine resolve?_iff.2 ⟨by rw [slot?_setTask, hslot], ?_⟩
  show (p.group.tasks.set slot u)[slot]? = some u
  rw [List.getElem?_set_self hlt]

theorem setTask_setTask : (p.setTask slot t).setTask slot u = p.setTask slot u := by
  simp [setTask, List.set_set]

/-- A task that was just created is found behind all others, whatever the index was before. -/
theorem resolve?_push : (p.push t).resolve? t.id = some (p.group.tasks.length, t) := by
  refine resolve?_iff.2 ⟨by rw [slot?_push, if_pos rfl], ?_⟩
  show (p.group.tasks ++ [t])[p.group.tasks.length]? = some t
  simp

theorem setTask_push (hid : u.id = t.id) :
    (p.push t).setTask p.group.tasks.length u = p.push u := by
  simp [push, setTask, hid]

/-- A task that was just created can run at once. -/
theorem advance_of_create (h : create event (.scheduled id name) p = .ok () q) :
    advance event' id .running q = .ok () (p.push ⟨id, name, .running, none⟩) := by
  obtain ⟨-, rfl⟩ := create_eq_ok_iff.1 h
  have hfound := resolve?_push (p := p) (t := .scheduled id name)
  refine update_eq_ok_iff.2 ⟨_, _, _, hfound, rfl, ?_⟩
  exact (setTask_push (t := .scheduled id name) (u := ⟨id, name, .running, none⟩) rfl).symm

/-- A task that passed the check can run and has no sub-tasks. -/
theorem open_of_checked (hcheck : Rule.checkChildStart t = .ok ()) :
    t.status.canMoveTo .running = true ∧ t.subTasks = none := by
  rw [Rule.checkChildStart, TaskStatus.moveTo] at hcheck
  split at hcheck
  · cases hcheck
  · rename_i hmove
    split at hmove
    · rename_i hrun
      split at hcheck
      · cases hcheck
      · rename_i hnone
        exact ⟨hrun, hnone⟩
    · cases hmove

/-- A task that passed the check takes any tasks in, and runs then; nothing else changes. -/
theorem attachChild_of_checked (h : p.resolve? id = some (slot, t))
    (hcheck : Rule.checkChildStart t = .ok ()) (g : TaskGroup) :
    attachChild event id g p = .ok () (p.setTask slot (t.expanded g.tasks)) := by
  obtain ⟨hrun, hnone⟩ := open_of_checked hcheck
  let attached : Task := { t with subTasks := some g.tasks }
  have hattach : attach event id g.tasks p = .ok () (p.setTask slot attached) :=
    update_eq_ok_iff.2 ⟨slot, t, attached, h, by rw [Task.attach, hnone], rfl⟩
  have hadvance : advance event id .running (p.setTask slot attached)
      = .ok () (p.setTask slot (t.expanded g.tasks)) := by
    refine update_eq_ok_iff.2
      ⟨slot, attached, t.expanded g.tasks, resolve?_setTask h attached, ?_, ?_⟩
    · have hmove : attached.status.moveTo .running = .ok .running := by
        rw [TaskStatus.moveTo, if_pos hrun]
      rw [Task.advance, hmove]
      rfl
    · rw [setTask_setTask]
  rw [attachChild, Step.bind_of_ok hattach, hadvance]

end Projection

/-! ## Registries -/

namespace Registry

open Projection

/-- The internal checks of the handlers always pass: no failure reports one, and where a child is
asked for, its tasks can be attached. -/
structure Consistent (r : Registry) : Prop where
  not_internal : ∀ e p cause q, r.dispatch e p = .error cause q → cause.isInternal = false
  attaches : ∀ e p task child q, r.dispatch e p = .ok (.expandChild task child) q →
    ∀ g, ∃ slot t, q.resolve? task = some (slot, t) ∧
      attachChild e.id task g q = .ok () (q.setTask slot (t.expanded g.tasks))

variable {r : Registry} {types : List EventType} {e : HistoryEvent} {p q : Projection}
  {cause : ProjectionError}

/-- An event of a type that moves a task says which task it moves. -/
theorem exists_reference?_of_moveTask {next : TaskStatus}
    (h : e.type.rule? = some (.moveTask next)) : ∃ task, e.kind.reference? = some task := by
  obtain ⟨_, _, kind⟩ := e
  cases kind <;> first | exact ⟨_, rfl⟩ | cases h

theorem not_internal_of_create {t : Task} (h : create e.id t p = .error cause q) :
    cause.isInternal = false := by
  obtain ⟨-, rfl, -⟩ := create_eq_error_iff.1 h
  rfl

theorem not_internal_of_advance {task : EventId} {next : TaskStatus}
    (h : advance e.id task next p = .error cause q) : cause.isInternal = false := by
  rcases (update_eq_error_iff.1 h).2 with ⟨-, rfl⟩ | ⟨slot, t, v, -, hv, rfl⟩
  · rfl
  · rw [Task.advance, TaskStatus.moveTo] at hv
    by_cases hmove : t.status.canMoveTo next = true
    · rw [if_pos hmove] at hv
      cases hv
    · rw [if_neg hmove] at hv
      cases hv
      rfl

theorem not_internal_of_find {task : EventId} (h : find e.id task p = .error cause q) :
    cause.isInternal = false := by
  rw [find] at h
  split at h
  · cases h
  · cases h
    rfl

theorem not_internal_of_checkChildStart {t : Task} {v : Violation}
    (h : Rule.checkChildStart t = .error v) :
    (ProjectionError.violation e.id v).isInternal = false := by
  cases hs : t.status.isTerminal with
  | true =>
    rw [checkChildStart_of_closed hs] at h
    cases h
    rfl
  | false =>
    rw [checkChildStart_of_open hs] at h
    split at h
    · cases h
      rfl
    · cases h

/-- A timer event fails only where its task cannot be created. -/
theorem timer_dispatch_of_create (htype : e.type = .timerStarted)
    (h : create e.id (.scheduled e.id timerLabel) p = .ok () q) :
    standard.dispatch e p = .ok .applied (p.push ⟨e.id, timerLabel, .running, none⟩) := by
  have hdispatch : standard.dispatch e = (do
      create e.id (.scheduled e.id timerLabel)
      advance e.id e.id .running
      return .applied) := by
    obtain ⟨_, _, kind⟩ := e
    cases kind <;> cases htype
    rfl
  rw [hdispatch, Step.bind_of_ok h, Step.bind_of_ok (advance_of_create h)]
  rfl

theorem standard_not_internal (h : standard.dispatch e p = .error cause q) :
    cause.isInternal = false := by
  cases hm : e.meaning with
  | creates t =>
    rcases dispatch_creates_eq hm with heq | ⟨-, heq⟩
    · rw [heq, Step.bind_eq_error_iff] at h
      rcases h with h | ⟨_, p', -, h⟩
      · exact not_internal_of_create h
      · cases h
    · rw [heq, Step.bind_eq_error_iff] at h
      rcases h with h | ⟨_, p', hcreate, h⟩
      · exact not_internal_of_create h
      · rw [Step.bind_of_ok (advance_of_create hcreate)] at h
        cases h
  | moves task next =>
    rw [dispatch_moves_eq hm, Step.bind_eq_error_iff] at h
    rcases h with h | ⟨_, p', -, h⟩
    · exact not_internal_of_advance h
    · cases h
  | starts task child =>
    rw [dispatch_starts_eq hm, Step.bind_eq_error_iff] at h
    rcases h with h | ⟨⟨slot, t⟩, p', -, h⟩
    · exact not_internal_of_find h
    · cases hcheck : Rule.checkChildStart t with
      | ok _ =>
        simp only [hcheck] at h
        cases h
      | error v =>
        simp only [hcheck] at h
        cases h
        exact not_internal_of_checkChildStart hcheck
  | movesGroup s =>
    rw [dispatch_movesGroup hm] at h
    split at h
    · cases h
    · cases h
      rfl
  | nothing =>
    rw [dispatch_nothing hm] at h
    cases h

theorem standard_consistent : standard.Consistent where
  not_internal _ _ _ _ := standard_not_internal
  attaches e p task child q h g := by
    obtain ⟨-, rfl, slot, t, hfound, hcheck⟩ := of_standard_expandChild h
    exact ⟨slot, t, hfound, attachChild_of_checked hfound hcheck g⟩

/-- Types can be taken out of a consistent registry. -/
theorem Consistent.unregisterAll (hr : r.Consistent) (types : List EventType) :
    (r.unregisterAll types).Consistent where
  not_internal e p cause q h := by
    rw [dispatch_unregisterAll] at h
    split at h
    · cases h
    · exact hr.not_internal e p cause q h
  attaches e p task child q h :=
    hr.attaches e p task child q (dispatch_of_unregisterAll_expandChild h)

end Registry

end HistoryTree
