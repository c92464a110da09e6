import HistoryTree.Projection.Registry
import HistoryTree.Proofs.Projection.Index

/-!
# What the events of a history say

The types of events differ in what they say about the tasks of an execution: one creates a
task, one moves a task to a status, one starts the child execution of a task, one moves the
execution itself.  `HistoryEvent.meaning` tells which, and the standard handlers do to a
projection what the events say (`Registry.dispatch_creates_of_none` and the lemmas after it).
-/

namespace HistoryTree

/-- What an event says. -/
inductive Meaning where
  /-- A task begins. -/
  | creates (t : Task)
  /-- A task moves to a status. -/
  | moves (task : EventId) (next : TaskStatus)
  /-- A task starts a child execution. -/
  | starts (task : EventId) (child : Execution)
  /-- The execution moves to a status. -/
  | movesGroup (next : GroupStatus)
  | nothing

namespace Meaning

/-- The task that is moved, or that starts a child execution. -/
def reference? : Meaning → Option EventId
  | moves task _ | starts task _ => some task
  | creates _ | movesGroup _ | nothing => none

/-- The status that the task referred to has afterwards; a task with a child runs. -/
def target? : Meaning → Option TaskStatus
  | moves _ next => some next
  | starts _ _ => some .running
  | creates _ | movesGroup _ | nothing => none

/-- The child execution that is started. -/
def child? : Meaning → Option Execution
  | starts _ child => some child
  | creates _ | moves _ _ | movesGroup _ | nothing => none

end Meaning

namespace HistoryEvent

/-- What an event says.  A timer runs at once; an activity and a child execution wait. -/
def meaning (e : HistoryEvent) : Meaning :=
  match e.kind with
  | .activityScheduled typeName | .childInitiated typeName =>
    .creates ⟨e.id, label typeName, .scheduled, none⟩
  | .timerStarted _ => .creates ⟨e.id, timerLabel, .running, none⟩
  | .activityStarted task => .moves task .running
  | .activityCompleted task | .childCompleted task | .timerFired task => .moves task .completed
  | .activityFailed task | .childFailed task => .moves task .failed
  | .activityTimedOut task | .childTimedOut task => .moves task .timedOut
  | .timerCanceled task => .moves task .canceled
  | .childStarted task child => .starts task child
  | .workflowStarted => .movesGroup .running
  | .workflowCompleted => .movesGroup .completed
  | .workflowFailed _ => .movesGroup .failed
  | .workflowSignaled _ | .decisionScheduled | .decisionStarted | .decisionCompleted
  | .markerRecorded _ | .unrecognized => .nothing

/-- The task that a kind refers to is the one that its meaning refers to. -/
theorem reference?_eq (e : HistoryEvent) : e.kind.reference? = e.meaning.reference? := by
  obtain ⟨_, _, kind⟩ := e
  cases kind <;> rfl

theorem child?_eq (e : HistoryEvent) : e.kind.child? = e.meaning.child? := by
  obtain ⟨_, _, kind⟩ := e
  cases kind <;> rfl

/-- The start of a child means the start of a child, and nothing else does. -/
theorem meaning_eq_starts_iff {e : HistoryEvent} {task : EventId} {child : Execution} :
    e.meaning = .starts task child ↔ e.kind = .childStarted task child := by
  obtain ⟨_, _, kind⟩ := e
  cases kind <;> simp [meaning]

/-- An event with a child starts the child execution of a task. -/
theorem exists_starts_of_child? {e : HistoryEvent} {child : Execution}
    (h : e.kind.child? = some child) : ∃ task, e.meaning = .starts task child := by
  obtain ⟨_, _, kind⟩ := e
  cases kind <;> cases h
  exact ⟨_, rfl⟩

/-- A task begins with the id of its event, not closed, and without sub-tasks. -/
theorem of_meaning_creates {e : HistoryEvent} {t : Task} (h : e.meaning = .creates t) :
    t.id = e.id ∧ t.status.isTerminal = false ∧ t.subTasks = none := by
  obtain ⟨_, _, kind⟩ := e
  cases kind <;> cases h <;> exact ⟨rfl, rfl, rfl⟩

/-- No event moves a task back to its beginning, so a task that is not closed can follow. -/
theorem canMoveTo_of_moves {e : HistoryEvent} {s next : TaskStatus} {task : EventId}
    (h : e.meaning = .moves task next) (hs : s.isTerminal = false) : s.canMoveTo next = true := by
  have hnext : next ≠ .scheduled := by
    obtain ⟨_, _, kind⟩ := e
    cases kind <;> cases h <;> decide
  cases s <;> cases next <;> first | rfl | exact absurd hs (by decide) | exact absurd rfl hnext

end HistoryEvent

theorem TaskStatus.canMoveTo_running {s : TaskStatus} (hs : s.isTerminal = false) :
    s.canMoveTo .running = true := by
  cases s <;> first | rfl | exact absurd hs (by decide)

/-! ## What the standard handlers do -/

namespace Registry

open Projection

variable {p : Projection} {e : HistoryEvent} {t : Task} {task : EventId} {next : TaskStatus}
  {child : Execution}

theorem dispatch_moves_eq (hm : e.meaning = .moves task next) :
    standard.dispatch e = (do advance e.id task next; return .applied) := by
  obtain ⟨_, _, kind⟩ := e
  cases kind <;> cases hm <;> rfl

theorem dispatch_starts_eq (hm : e.meaning = .starts task child) :
    standard.dispatch e = (do
      let (_, t) ← find e.id task
      match Rule.checkChildStart t with
      | .error v => throw (.violation e.id v)
      | .ok () => return .expandChild task child) := by
  obtain ⟨_, _, kind⟩ := e
  cases kind <;> cases hm
  rfl

theorem dispatch_movesGroup_eq {s : GroupStatus} (hm : e.meaning = .movesGroup s) :
    standard.dispatch e = (do setStatus e.id s; return .applied) := by
  obtain ⟨_, _, kind⟩ := e
  cases kind <;> cases hm <;> rfl

theorem dispatch_nothing (hm : e.meaning = .nothing) :
    standard.dispatch e p = .ok .applied p := by
  obtain ⟨_, _, kind⟩ := e
  cases kind <;> cases hm <;> rfl

theorem dispatch_creates_eq (hm : e.meaning = .creates t) :
    standard.dispatch e = (do create e.id t; return .applied) ∨
      (t = ⟨e.id, timerLabel, .running, none⟩ ∧ standard.dispatch e = (do
        create e.id (.scheduled e.id timerLabel)
        advance e.id e.id .running
        return .applied)) := by
  obtain ⟨_, _, kind⟩ := e
  cases kind <;> cases hm <;> first | exact .inl rfl | exact .inr ⟨rfl, rfl⟩

/-- A task is not created when there is one with its id. -/
theorem dispatch_creates_of_some {u : Task} (hp : p.WellIndexed) (hm : e.meaning = .creates t)
    (h : p.group.task? e.id = some u) :
    standard.dispatch e p = .error (.duplicateTask e.id e.id) p := by
  have hcreate : ∀ t' : Task, t'.id = e.id →
      create e.id t' p = .error (.duplicateTask e.id e.id) p := by
    intro t' ht'
    rw [← ht'] at h
    rw [hp.create_of_some h, ht']
  rcases dispatch_creates_eq hm with heq | ⟨-, heq⟩
  · rw [heq, Step.bind_of_error (hcreate t (HistoryEvent.of_meaning_creates hm).1)]
  · rw [heq, Step.bind_of_error (hcreate _ rfl)]

/-- The task is appended as the event says; a timer is appended waiting and moved at once. -/
theorem dispatch_creates_of_none (hp : p.WellIndexed) (hm : e.meaning = .creates t)
    (h : p.group.task? e.id = none) : standard.dispatch e p = .ok .applied (p.push t) := by
  have hid := (HistoryEvent.of_meaning_creates hm).1
  rcases dispatch_creates_eq hm with heq | ⟨rfl, heq⟩
  · rw [heq, Step.bind_of_ok (hp.create_of_none (by rw [hid, h]))]
    rfl
  · let waiting : Task := .scheduled e.id timerLabel
    have hp' : (p.push waiting).WellIndexed := hp.after_push h
    have htask : (p.push waiting).group.task? e.id = some waiting :=
      hp'.task?_eq_some_iff.2 ⟨by simp [push], rfl⟩
    have hadvance : advance e.id e.id .running (p.push waiting)
        = .ok () ((p.push waiting).modify e.id fun t => { t with status := .running }) :=
      hp'.update_of_ok htask _ rfl
    have hpushed : (p.push waiting).modify e.id (fun t => { t with status := .running })
        = p.push ⟨e.id, timerLabel, .running, none⟩ := modify_push (t := waiting) h rfl
    rw [heq, Step.bind_of_ok (hp.create_of_none (t := waiting) h), Step.bind_of_ok hadvance, hpushed]
    rfl

/-- A task that is not there cannot be moved. -/
theorem dispatch_moves_of_none (hp : p.WellIndexed) (hm : e.meaning = .moves task next)
    (h : p.group.task? task = none) :
    standard.dispatch e p = .error (.unknownReference e.id task) p := by
  rw [dispatch_moves_eq hm, advance, Step.bind_of_error (hp.update_of_none h)]

/-- A task that is closed cannot be moved. -/
theorem dispatch_moves_of_closed (hp : p.WellIndexed) (hm : e.meaning = .moves task next)
    (h : p.group.task? task = some t) (ht : t.status.isTerminal = true) :
    standard.dispatch e p = .error (.violation e.id (.taskMove t.status next)) p := by
  have hchange : t.advance next = .error (.taskMove t.status next) := by
    simp [Task.advance, TaskStatus.moveTo, TaskStatus.not_canMoveTo_of_isTerminal ht next]
  rw [dispatch_moves_eq hm, advance, Step.bind_of_error (hp.update_of_error h hchange)]

/-- A task that is open is moved, and nothing else changes. -/
theorem dispatch_moves_of_open (hp : p.WellIndexed) (hm : e.meaning = .moves task next)
    (h : p.group.task? task = some t) (ht : t.status.isTerminal = false) :
    standard.dispatch e p = .ok .applied (p.modify task fun t => { t with status := next }) := by
  have hchange : t.advance next = .ok { t with status := next } := by
    simp [Task.advance, TaskStatus.moveTo, HistoryEvent.canMoveTo_of_moves hm ht]
  rw [dispatch_moves_eq hm, advance,
    Step.bind_of_ok (hp.update_of_ok h (fun t => { t with status := next }) hchange)]
  rfl

theorem dispatch_starts_of_none (hp : p.WellIndexed) (hm : e.meaning = .starts task child)
    (h : p.group.task? task = none) :
    standard.dispatch e p = .error (.unknownReference e.id task) p := by
  rw [dispatch_starts_eq hm, Step.bind_of_error (hp.find_of_none h)]

/-- A child start only looks at the task: it asks for the child, or is refused. -/
theorem dispatch_starts_of_some (hp : p.WellIndexed) (hm : e.meaning = .starts task child)
    (h : p.group.task? task = some t) :
    standard.dispatch e p = match Rule.checkChildStart t with
      | .error v => .error (.violation e.id v) p
      | .ok () => .ok (.expandChild task child) p := by
  obtain ⟨slot, hfind⟩ := hp.find_of_some e.id h
  rw [dispatch_starts_eq hm, Step.bind_of_ok hfind]
  show (match Rule.checkChildStart t with
    | .error v => throw (.violation e.id v)
    | .ok () => return .expandChild task child : Step Outcome) p = _
  cases Rule.checkChildStart t <;> rfl

theorem checkChildStart_of_closed (ht : t.status.isTerminal = true) :
    Rule.checkChildStart t = .error (.taskMove t.status .running) := by
  simp [Rule.checkChildStart, TaskStatus.moveTo, TaskStatus.not_canMoveTo_of_isTerminal ht]

theorem checkChildStart_of_open (ht : t.status.isTerminal = false) :
    Rule.checkChildStart t = if t.subTasks.isSome then .error (.startedChild t.id) else .ok () := by
  simp only [Rule.checkChildStart, TaskStatus.moveTo, TaskStatus.canMoveTo_running ht, if_true]
  cases t.subTasks <;> rfl

/-- The group is moved while it runs, and not afterwards. -/
theorem dispatch_movesGroup {s : GroupStatus} (hm : e.meaning = .movesGroup s) :
    standard.dispatch e p =
      if p.group.status = .running then .ok .applied (p.withStatus s)
      else .error (.violation e.id (.groupMove p.group.status s)) p := by
  rw [dispatch_movesGroup_eq hm]
  by_cases hrun : p.group.status = .running
  · have hset : setStatus e.id s p = .ok () (p.withStatus s) := by
      rw [setStatus, GroupStatus.moveTo, if_pos (GroupStatus.canMoveTo_iff.2 hrun)]
    rw [Step.bind_of_ok hset, if_pos hrun]
    rfl
  · have hset : setStatus e.id s p = .error (.violation e.id (.groupMove p.group.status s)) p := by
      rw [setStatus, GroupStatus.moveTo, if_neg (mt GroupStatus.canMoveTo_iff.1 hrun)]
    rw [Step.bind_of_error hset, if_neg hrun]

end Registry

end HistoryTree
