import HistoryTree.Label
import HistoryTree.Projection.Basic

/-!
# What each event does

A `Handler` applies one event to a projection.  What the standard handlers do is given as
data: a `Rule` for each type of event that the task tree tracks.  A child execution is only
checked here; the handler asks for it to be expanded.
-/

namespace HistoryTree

/-- What is left to do once an event was applied. -/
inductive Outcome where
  | applied
  /-- The child execution has to be projected, and its tasks hung below a task. -/
  | expandChild (task : EventId) (child : Execution)
  deriving DecidableEq, Repr

/-- A way to apply an event. -/
abbrev Handler := HistoryEvent → Step Outcome

/-- What events of one type do. -/
inductive Rule where
  /-- The execution moves to a status. -/
  | moveGroup (next : GroupStatus)
  /-- A task labelled by the type name of the event is scheduled. -/
  | schedule
  /-- A timer is created, which runs at once. -/
  | startTimer
  /-- The task that the event refers to moves to a status. -/
  | moveTask (next : TaskStatus)
  /-- The task that the event refers to starts a child execution. -/
  | startChild
  deriving DecidableEq, Repr

/-- The rule for a type of event; none for the types that the task tree does not track. -/
def EventType.rule? : EventType → Option Rule
  | workflowStarted => some (.moveGroup .running)
  | workflowCompleted => some (.moveGroup .completed)
  | workflowFailed => some (.moveGroup .failed)
  | activityScheduled | childInitiated => some .schedule
  | activityStarted => some (.moveTask .running)
  | activityCompleted | childCompleted | timerFired => some (.moveTask .completed)
  | activityFailed | childFailed => some (.moveTask .failed)
  | activityTimedOut | childTimedOut => some (.moveTask .timedOut)
  | timerCanceled => some (.moveTask .canceled)
  | childStarted => some .startChild
  | timerStarted => some .startTimer
  | workflowSignaled | decisionScheduled | decisionStarted | decisionCompleted | markerRecorded
  | unrecognized => none

namespace Rule

open Projection

/-- An event is not of the type that a handler is for. -/
def unexpected {α : Type} (expected : EventType) (e : HistoryEvent) : Step α :=
  throw (.unexpectedEvent e.id expected)

/-- Checks that a task may start a child execution: it can move to running and has started none
so far.  Nothing changes until the child is projected. -/
def checkChildStart (t : Task) : Except Violation Unit :=
  match t.status.moveTo .running with
  | .error v => .error v
  | .ok _ =>
    match t.subTasks with
    | some _ => .error (.startedChild t.id)
    | none => .ok ()

/-- Applies a rule to an event of a type that has it. -/
def apply (expected : EventType) : Rule → Handler
  | moveGroup next, e => do
    setStatus e.id next
    return .applied
  | schedule, e =>
    match e.kind.typeName? with
    | none => unexpected expected e
    | some typeName => do
      create e.id (.ofTypeName e.id typeName)
      return .applied
  | startTimer, e => do
    create e.id (.scheduled e.id timerLabel)
    advance e.id e.id .running
    return .applied
  | moveTask next, e =>
    match e.kind.reference? with
    | none => unexpected expected e
    | some reference => do
      advance e.id reference next
      return .applied
  | startChild, e =>
    match e.kind.reference?, e.kind.child? with
    | some reference, some child => do
      let (_, t) ← find e.id reference
      match checkChildStart t with
      | .error v => throw (.violation e.id v)
      | .ok () => return .expandChild reference child
    | _, _ => unexpected expected e

/-- The handler for events of one type, which applies its rule and refuses all other events. -/
def handler (expected : EventType) (r : Rule) : Handler := fun e =>
  if e.type = expected then r.apply expected e else unexpected expected e

end Rule

/-- The standard handler for a type of event, if the task tree tracks it. -/
def EventType.standardHandler? (t : EventType) : Option Handler := t.rule?.map (Rule.handler t)

end HistoryTree
