import HistoryTree.Event.Basic
import HistoryTree.Projection.Error
import HistoryTree.Task

/-!
# Projections

A projection is the task group of one execution while its history is read, with an index
from the event that created a task to the place of the task in the group.  A `Step` moves
it on or fails, and tells in both cases which projection is left behind.  Main statements:
a step fails for the stated cause and only then (`create_eq_error_iff`,
`update_eq_error_iff`), and leaves the projection as it was.
-/

namespace HistoryTree

/-- A task group under construction. -/
structure Projection where
  group : TaskGroup
  /-- The place of each task in the group, by the event that created it. -/
  index : List (EventId × Nat)
  deriving Repr

/-- A change of a projection that may fail; the projection after a failure is known too. -/
abbrev Step (α : Type) := EStateM ProjectionError Projection α

namespace Projection

/-- The projection of an execution of which no event was read. -/
def start (x : Execution) : Projection := ⟨.empty x, []⟩

/-- The place of the task that an event created. -/
def slot? (p : Projection) (id : EventId) : Option Nat := p.index.lookup id

/-- The task that an event created, with its place. -/
def resolve? (p : Projection) (id : EventId) : Option (Nat × Task) := do
  let slot ← p.slot? id
  let task ← p.group.tasks[slot]?
  return (slot, task)

/-- The projection with one more task behind the others. -/
def push (p : Projection) (t : Task) : Projection :=
  { p with
    group := { p.group with tasks := p.group.tasks ++ [t] }
    index := (t.id, p.group.tasks.length) :: p.index }

/-- The projection with another task in a place. -/
def setTask (p : Projection) (slot : Nat) (t : Task) : Projection :=
  { p with group := { p.group with tasks := p.group.tasks.set slot t } }

/-- The projection with another status of the execution. -/
def withStatus (p : Projection) (s : GroupStatus) : Projection :=
  { p with group := { p.group with status := s } }

/-! ## Steps

Each step takes the id of the event on whose behalf it is made. -/

/-- Appends a task, whose id must be new. -/
def create (event : EventId) (t : Task) : Step Unit := fun p =>
  match p.slot? t.id with
  | some _ => .error (.duplicateTask event t.id) p
  | none => .ok () (p.push t)

/-- The task that an earlier event created, with its place. -/
def find (event reference : EventId) : Step (Nat × Task) := fun p =>
  match p.resolve? reference with
  | some found => .ok found p
  | none => .error (.unknownReference event reference) p

/-- Changes the task that an earlier event created. -/
def update (event reference : EventId) (change : Task → Except Violation Task) : Step Unit :=
  fun p =>
    match p.resolve? reference with
    | none => .error (.unknownReference event reference) p
    | some (slot, t) =>
      match change t with
      | .error v => .error (.violation event v) p
      | .ok t' => .ok () (p.setTask slot t')

/-- Moves a task forward. -/
def advance (event reference : EventId) (next : TaskStatus) : Step Unit :=
  update event reference (·.advance next)

/-- Attaches sub-tasks to a task. -/
def attach (event reference : EventId) (subTasks : List Task) : Step Unit :=
  update event reference (·.attach subTasks)

/-- Moves the execution itself to a status. -/
def setStatus (event : EventId) (next : GroupStatus) : Step Unit := fun p =>
  match p.group.status.moveTo next with
  | .ok s => .ok () (p.withStatus s)
  | .error v => .error (.violation event v) p

/-- Hangs the tasks of a child execution below a task, which is running from then on. -/
def attachChild (event reference : EventId) (child : TaskGroup) : Step Unit := do
  attach event reference child.tasks
  advance event reference .running

/-! ## The index -/

variable {p q : Projection} {event reference id : EventId} {t : Task} {e : ProjectionError}

@[simp] theorem slot?_start (x : Execution) : (start x).slot? id = none := rfl

theorem slot?_push : (p.push t).slot? id
    = if id = t.id then some p.group.tasks.length else p.slot? id := by
  by_cases h : id = t.id
  · simp [slot?, push, h]
  · simp [slot?, push, List.lookup_cons, beq_false_of_ne h, h]

@[simp] theorem slot?_setTask (slot : Nat) : (p.setTask slot t).slot? id = p.slot? id := rfl

@[simp] theorem slot?_withStatus (s : GroupStatus) : (p.withStatus s).slot? id = p.slot? id := rfl

/-! ## When steps fail -/

theorem create_eq_error_iff : create event t p = .error e q ↔
    (∃ slot, p.slot? t.id = some slot) ∧ e = .duplicateTask event t.id ∧ q = p := by
  rw [create]
  cases p.slot? t.id <;> simp [eq_comm]

theorem create_eq_ok_iff :
    create event t p = .ok () q ↔ p.slot? t.id = none ∧ q = p.push t := by
  rw [create]
  cases p.slot? t.id <;> simp [eq_comm]

/-- A change fails where the reference leads nowhere, and where the change itself is refused. -/
theorem update_eq_error_iff {change : Task → Except Violation Task} :
    update event reference change p = .error e q ↔
      q = p ∧ ((p.resolve? reference = none ∧ e = .unknownReference event reference) ∨
        ∃ slot t v, p.resolve? reference = some (slot, t) ∧ change t = .error v ∧
          e = .violation event v) := by
  rw [update]
  constructor
  · intro h
    split at h
    · rename_i hr
      cases h
      exact ⟨rfl, .inl ⟨hr, rfl⟩⟩
    · rename_i slot t hr
      split at h
      · rename_i v hv
        cases h
        exact ⟨rfl, .inr ⟨slot, t, v, hr, hv, rfl⟩⟩
      · cases h
  · rintro ⟨rfl, ⟨hr, rfl⟩ | ⟨slot, t, v, hr, hv, rfl⟩⟩
    · simp only [hr]
    · simp only [hr, hv]

theorem update_eq_ok_iff {change : Task → Except Violation Task} :
    update event reference change p = .ok () q ↔
      ∃ slot t t', p.resolve? reference = some (slot, t) ∧ change t = .ok t' ∧
        q = p.setTask slot t' := by
  rw [update]
  constructor
  · intro h
    split at h
    · cases h
    · rename_i slot t hr
      split at h
      · cases h
      · rename_i t' ht
        cases h
        exact ⟨slot, t, t', hr, ht, rfl⟩
  · rintro ⟨slot, t, t', hr, ht, rfl⟩
    simp only [hr, ht]

end Projection

end HistoryTree
