import HistoryTree.Proofs.History.Meaning

/-!
# Where sub-tasks come from

Handlers are to leave child executions to the expansion: it projects them, and it hangs their
tasks below the task that started them.  `Outcome.LeavesChildren` says so of what applying one
event leads to, whoever applies it: a child is asked for only at an event that starts one, and
there are no sub-tasks that were not there before.  The standard handlers keep to it
(`Registry.standard_leavesChildren`), and so does a handler that asks for every child without a
look at its task (`Registry.unchecked_leavesChildren`).
-/

namespace HistoryTree

/-- A sequence succeeds exactly if both of its parts do. -/
theorem bind_eq_ok_iff {ε σ α β : Type} {c : EStateM ε σ α} {f : α → EStateM ε σ β} {s t : σ}
    {b : β} : (c >>= f) s = .ok b t ↔ ∃ a s', c s = .ok a s' ∧ f a s' = .ok b t := by
  show EStateM.bind c f s = .ok b t ↔ _
  rw [EStateM.bind]
  cases c s with
  | ok a s' => simp [and_assoc]
  | error e s' => simp

namespace Projection

/-- All sub-tasks that a projection holds are those of an earlier one. -/
def SubTasksFrom (q p : Projection) : Prop :=
  ∀ t ∈ q.group.tasks, ∀ ts, t.subTasks = some ts → ∃ u ∈ p.group.tasks, u.subTasks = some ts

variable {p q r : Projection} {t u : Task} {slot : Nat} {event id : EventId}

namespace SubTasksFrom

theorem refl (p : Projection) : p.SubTasksFrom p := fun t ht _ hsub => ⟨t, ht, hsub⟩

theorem trans (hr : r.SubTasksFrom q) (hq : q.SubTasksFrom p) : r.SubTasksFrom p := by
  intro t ht ts hsub
  obtain ⟨u, hu, husub⟩ := hr t ht ts hsub
  exact hq u hu ts husub

/-- A task without sub-tasks brings none. -/
theorem push (ht : t.subTasks = none) : (p.push t).SubTasksFrom p := by
  intro u hu ts hsub
  rcases List.mem_append.1 hu with hu | hu
  · exact ⟨u, hu, hsub⟩
  · rw [List.mem_singleton.1 hu, ht] at hsub
    cases hsub

/-- A task that takes the place of one with the same sub-tasks brings none. -/
theorem setTask (hu : u ∈ p.group.tasks) (ht : t.subTasks = u.subTasks) :
    (p.setTask slot t).SubTasksFrom p := by
  intro v hv ts hsub
  rcases List.mem_or_eq_of_mem_set hv with hv | rfl
  · exact ⟨v, hv, hsub⟩
  · exact ⟨u, hu, by rw [← ht, hsub]⟩

end SubTasksFrom

theorem mem_of_resolve? (h : p.resolve? id = some (slot, t)) : t ∈ p.group.tasks := by
  simp only [resolve?, Option.bind_eq_bind, Option.bind_eq_some_iff, pure] at h
  obtain ⟨i, -, u, hu, heq⟩ := h
  obtain ⟨-, rfl⟩ : i = slot ∧ u = t := by simpa using heq
  exact List.mem_of_getElem? hu

theorem subTasks_of_advance {next : TaskStatus} (h : t.advance next = .ok u) :
    u.subTasks = t.subTasks := by
  rw [Task.advance] at h
  split at h
  · cases h
    rfl
  · cases h

theorem subTasksFrom_of_create (ht : t.subTasks = none) (h : create event t p = .ok () q) :
    q.SubTasksFrom p := by
  obtain ⟨-, rfl⟩ := create_eq_ok_iff.1 h
  exact .push ht

theorem subTasksFrom_of_advance {next : TaskStatus} (h : advance event id next p = .ok () q) :
    q.SubTasksFrom p := by
  obtain ⟨slot, t, t', hresolve, hadvance, rfl⟩ := update_eq_ok_iff.1 h
  exact .setTask (mem_of_resolve? hresolve) (subTasks_of_advance hadvance)

end Projection

/-- An event is applied without going beyond it: a child execution is asked for only if the event
starts one, and no task has sub-tasks that no task had before. -/
structure Outcome.LeavesChildren (e : HistoryEvent) (p q : Projection) (outcome : Outcome) :
    Prop where
  type_of_expandChild : ∀ task child, outcome = .expandChild task child → e.type = .childStarted
  subTasksFrom : q.SubTasksFrom p

theorem Outcome.LeavesChildren.of_applied {e : HistoryEvent} {p q : Projection}
    (h : q.SubTasksFrom p) : Outcome.applied.LeavesChildren e p q :=
  ⟨by rintro _ _ ⟨⟩, h⟩

namespace Registry

open Projection

/-- The handlers of a registry leave child executions to the expansion. -/
def LeavesChildren (r : Registry) : Prop :=
  ∀ e p outcome q, r.dispatch e p = .ok outcome q → outcome.LeavesChildren e p q

/-- An event that creates a task hangs nothing below a task. -/
theorem leavesChildren_of_creates {e : HistoryEvent} {t : Task} {p q : Projection}
    {outcome : Outcome} (hm : e.meaning = .creates t)
    (h : standard.dispatch e p = .ok outcome q) : outcome.LeavesChildren e p q := by
  rcases dispatch_creates_eq hm with heq | ⟨-, heq⟩
  · rw [heq, bind_eq_ok_iff] at h
    obtain ⟨_, p', hcreate, h⟩ := h
    cases h
    exact .of_applied (subTasksFrom_of_create (HistoryEvent.of_meaning_creates hm).2.2 hcreate)
  · rw [heq, bind_eq_ok_iff] at h
    obtain ⟨_, p', hcreate, h⟩ := h
    rw [bind_eq_ok_iff] at h
    obtain ⟨_, p'', hadvance, h⟩ := h
    cases h
    have hcreated : p'.SubTasksFrom p := subTasksFrom_of_create rfl hcreate
    exact .of_applied ((subTasksFrom_of_advance hadvance).trans hcreated)

/-- An event that starts a child leaves it to the expansion to hang tasks below a task. -/
theorem leavesChildren_of_starts {e : HistoryEvent} {task : EventId} {child : Execution}
    {p q : Projection} {outcome : Outcome} (hm : e.meaning = .starts task child)
    (h : standard.dispatch e p = .ok outcome q) : outcome.LeavesChildren e p q := by
  have htype : e.type = .childStarted := by
    rw [HistoryEvent.type, HistoryEvent.meaning_eq_starts_iff.1 hm]
    rfl
  rw [dispatch_starts_eq hm, bind_eq_ok_iff] at h
  obtain ⟨⟨slot, t⟩, p', hfind, h⟩ := h
  have hp' : p' = p := by
    rw [find] at hfind
    split at hfind
    · cases hfind
      rfl
    · cases hfind
  cases hcheck : Rule.checkChildStart t with
  | error v =>
    simp only [hcheck] at h
    cases h
  | ok _ =>
    simp only [hcheck] at h
    cases h
    exact ⟨fun _ _ _ => htype, hp' ▸ .refl p⟩

/-- No standard handler hangs tasks below a task by itself. -/
theorem standard_leavesChildren : standard.LeavesChildren := by
  intro e p outcome q h
  cases hm : e.meaning with
  | creates t => exact leavesChildren_of_creates hm h
  | moves task next =>
    rw [dispatch_moves_eq hm, bind_eq_ok_iff] at h
    obtain ⟨_, p', hadvance, h⟩ := h
    cases h
    exact .of_applied (subTasksFrom_of_advance hadvance)
  | starts task child => exact leavesChildren_of_starts hm h
  | movesGroup s =>
    rw [dispatch_movesGroup hm] at h
    split at h
    · cases h
      exact .of_applied (.refl p)
    · cases h
  | nothing =>
    rw [dispatch_nothing hm] at h
    cases h
    exact .of_applied (.refl p)

/-- Asks for the child execution that an event starts, without a look at the task. -/
def expandUnchecked : Handler := fun e =>
  match e.kind with
  | .childStarted task child => return .expandChild task child
  | _ => return .applied

/-- The standard handlers, but that child executions are asked for without a check. -/
def unchecked : Registry := standard.register .childStarted expandUnchecked

theorem unchecked_leavesChildren : unchecked.LeavesChildren := by
  intro e p outcome q h
  rw [unchecked, dispatch, handler?_register] at h
  by_cases htype : e.type = .childStarted
  · rw [if_pos htype] at h
    obtain ⟨asked, hasked⟩ : ∃ asked, expandUnchecked e = pure asked := by
      rw [expandUnchecked]
      split
      · exact ⟨_, rfl⟩
      · exact ⟨_, rfl⟩
    have happly : expandUnchecked e p = .ok outcome q := h
    rw [hasked] at happly
    cases happly
    exact ⟨fun _ _ _ => htype, .refl p⟩
  · rw [if_neg htype] at h
    exact standard_leavesChildren e p outcome q h

end Registry

end HistoryTree
