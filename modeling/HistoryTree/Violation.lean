import HistoryTree.Execution
import HistoryTree.Status

/-!
# Violations

What a step on statuses, tasks and references may be refused for, each cause with the
text that reports it, and the checked moves between statuses.
-/

namespace HistoryTree

/-- A rule of the task model that a step would break. -/
inductive Violation where
  /-- A task may not move between these statuses. -/
  | taskMove (current next : TaskStatus)
  /-- A group may not move between these statuses. -/
  | groupMove (current next : GroupStatus)
  /-- Sub-tasks are attached once. -/
  | hasSubTasks (id : EventId)
  /-- A task starts one child execution. -/
  | startedChild (id : EventId)
  /-- A text names no execution. -/
  | notAReference (text : String)
  deriving DecidableEq, Repr

namespace Violation

/-- Whether a status move was refused; the other violations are about an input. -/
def isMove : Violation → Bool
  | taskMove .. | groupMove .. => true
  | hasSubTasks _ | startedChild _ | notAReference _ => false

/-- The text that reports a violation. -/
def message : Violation → String
  | taskMove current next => "Invalid state transition: " ++ current.text ++ " -> " ++ next.text
  | groupMove current next => "Invalid state transition: " ++ current.text ++ " -> " ++ next.text
  | hasSubTasks id => "Invalid input: task " ++ id.text ++ " already has sub-tasks"
  | startedChild id => "Invalid input: task " ++ id.text ++ " already started a child execution"
  | notAReference text =>
    "Invalid input: expected <execution_id>/<run_id>, got '" ++ text ++ "'"

end Violation

/-- The status after an allowed move. -/
def TaskStatus.moveTo (s next : TaskStatus) : Except Violation TaskStatus :=
  if s.canMoveTo next then .ok next else .error (.taskMove s next)

/-- The status after an allowed move. -/
def GroupStatus.moveTo (s next : GroupStatus) : Except Violation GroupStatus :=
  if s.canMoveTo next then .ok next else .error (.groupMove s next)

/-- The execution that a text names. -/
def Execution.parse (s : String) : Except Violation Execution :=
  match parse? s with
  | some x => .ok x
  | none => .error (.notAReference s)

end HistoryTree
