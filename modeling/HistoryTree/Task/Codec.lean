import HistoryTree.Json.Record
import HistoryTree.Task

/-!
# Executions, tasks and task groups as documents

Each is a record with its fields in a fixed order.  A task without sub-tasks is written
without that member, which is different from an empty list of sub-tasks.
-/

namespace HistoryTree

open Json

/-! ## Statuses -/

/-- The statuses of tasks with their names. -/
def TaskStatus.names : List (String × TaskStatus) := TaskStatus.all.map fun s => (s.text, s)

/-- The statuses of groups with their names. -/
def GroupStatus.names : List (String × GroupStatus) := GroupStatus.all.map fun s => (s.text, s)

/-- The status of a task, by its name. -/
def TaskStatus.reader : Reader TaskStatus := Reader.variant TaskStatus.names

/-- The status of a group, by its name. -/
def GroupStatus.reader : Reader GroupStatus := Reader.variant GroupStatus.names

/-! ## Ids and executions -/

/-- An event id. -/
def EventId.reader : Reader EventId := fun levels t => (Reader.int64 levels t).map EventId.mk

namespace Execution

/-- The members of an execution. -/
def members (x : Execution) : List (String × Value) :=
  [("execution_id", .string x.id), ("run_id", .string x.run)]

/-- The execution as an object. -/
def toValue (x : Execution) : Value := .object x.members

/-- The columns of an execution. -/
def columns (levels : Nat) : List (Column Tree) :=
  [⟨"execution_id", String, Reader.text levels, none⟩,
    ⟨"run_id", String, Reader.text levels, none⟩]

/-- An execution. -/
def reader : Reader Execution :=
  Reader.record "ExecutionRef" columns fun _ (id, run, _) => ⟨id, run⟩

end Execution

/-! ## Tasks -/

namespace Task

mutual

/-- The task as an object. -/
def toValue : Task → Value
  | ⟨id, name, status, none⟩ =>
    .object [("id", .int id.value.toInt), ("name", .string name),
      ("status", .string status.text)]
  | ⟨id, name, status, some ts⟩ =>
    .object [("id", .int id.value.toInt), ("name", .string name),
      ("status", .string status.text), ("sub_tasks", .array (toValues ts))]

/-- Tasks as objects. -/
def toValues : List Task → List Value
  | [] => []
  | t :: ts => toValue t :: toValues ts

end

/-- The columns of a task, with a reader for each of its sub-tasks. -/
def columns (subTask : Reader Task) (levels : Nat) : List (Column Tree) :=
  [⟨"id", EventId, EventId.reader levels, none⟩,
    ⟨"name", String, Reader.text levels, none⟩,
    ⟨"status", TaskStatus, TaskStatus.reader levels, none⟩,
    ⟨"sub_tasks", Option (List Task), Reader.optional (Reader.list subTask) levels, some none⟩]

/-- A task with a reader for each of its sub-tasks. -/
def readerWith (subTask : Reader Task) : Reader Task :=
  Reader.record "Task" (columns subTask) fun _ (id, name, status, subTasks, _) =>
    ⟨id, name, status, subTasks⟩

/-- A task whose sub-tasks nest at most `depth` deep. -/
def readerOfDepth : (depth : Nat) → Reader Task
  | 0 => readerWith fun _ _ => defect .malformed
  | depth + 1 => readerWith (readerOfDepth depth)

/-- A task.  Each nesting of sub-tasks takes two levels, so the levels bound the nesting. -/
def reader : Reader Task := fun levels => readerOfDepth levels levels

end Task

namespace TaskGroup

/-- The group as an object. -/
def toValue (g : TaskGroup) : Value :=
  .object (g.execution.members ++
    [("tasks", .array (Task.toValues g.tasks)), ("status", .string g.status.text)])

/-- The columns of a group. -/
def columns (levels : Nat) : List (Column Tree) :=
  [⟨"execution_id", String, Reader.text levels, none⟩,
    ⟨"run_id", String, Reader.text levels, none⟩,
    ⟨"tasks", List Task, Reader.list Task.reader levels, none⟩,
    ⟨"status", GroupStatus, GroupStatus.reader levels, none⟩]

/-- A group. -/
def reader : Reader TaskGroup :=
  Reader.record "TaskGroup" columns fun _ (id, run, tasks, status, _) =>
    ⟨⟨id, run⟩, tasks, status⟩

end TaskGroup

end HistoryTree
