import HistoryTree.Label
import HistoryTree.Violation

/-!
# Tasks and task groups

A task is one unit of work of a projected history; a task that started a child execution
holds the tasks of that child.  A group is the tree of one execution.  `TaskGroup.walk`
lists all tasks of a tree, each with its depth, by keeping the tasks still to visit on a
stack.
-/

namespace HistoryTree

/-- A unit of work: an activity, a child execution or a timer. -/
structure Task where
  /-- The event that created the task. -/
  id : EventId
  name : String
  status : TaskStatus
  /-- The tasks of the child execution, once one was started. -/
  subTasks : Option (List Task)
  deriving Repr

namespace Task

/-- A scheduled task without sub-tasks. -/
def scheduled (id : EventId) (name : String) : Task := ⟨id, name, .scheduled, none⟩

/-- A scheduled task labelled by its type name. -/
def ofTypeName (id : EventId) (typeName : String) : Task := scheduled id (label typeName)

/-- The sub-tasks; none for a task without a child execution. -/
def children (t : Task) : List Task := t.subTasks.getD []

/-- Whether work on the task has ended. -/
def isTerminal (t : Task) : Bool := t.status.isTerminal

/-- The task with an allowed move of its status made. -/
def advance (t : Task) (next : TaskStatus) : Except Violation Task :=
  match t.status.moveTo next with
  | .ok s => .ok { t with status := s }
  | .error v => .error v

/-- The task with sub-tasks, which are attached only once. -/
def attach (t : Task) (subTasks : List Task) : Except Violation Task :=
  match t.subTasks with
  | some _ => .error (.hasSubTasks t.id)
  | none => .ok { t with subTasks := some subTasks }

/-! ## Walking -/

mutual

/-- The number of tasks in a tree. -/
def size : Task → Nat
  | ⟨_, _, _, none⟩ => 1
  | ⟨_, _, _, some ts⟩ => sizes ts + 1

/-- The number of tasks in a list of trees. -/
def sizes : List Task → Nat
  | [] => 0
  | t :: ts => size t + sizes ts

end

theorem size_eq (t : Task) : t.size = sizes t.children + 1 := by
  obtain ⟨_, _, _, _ | ts⟩ := t <;> simp [size, children, sizes]

/-- The number of tasks in the trees of a stack. -/
def stackSize (stack : List (Nat × Task)) : Nat := sizes (stack.map Prod.snd)

theorem sizes_append (ts us : List Task) : sizes (ts ++ us) = sizes ts + sizes us := by
  induction ts with
  | nil => simp [sizes]
  | cons t ts ih => simp [sizes, ih]; omega

/-- Visits the task on top of the stack, then its sub-tasks one level deeper, then the rest. -/
def walkFrom : List (Nat × Task) → List (Nat × Task)
  | [] => []
  | (depth, t) :: rest => (depth, t) :: walkFrom (t.children.map (depth + 1, ·) ++ rest)
termination_by stack => stackSize stack
decreasing_by
  simp [stackSize, sizes, sizes_append, size_eq t, Function.comp_def]

end Task

/-- The tree of one execution. -/
structure TaskGroup where
  execution : Execution
  /-- The top-level tasks, in the order of the events that created them. -/
  tasks : List Task
  status : GroupStatus
  deriving Repr

namespace TaskGroup

/-- The group of an execution of which nothing is known yet. -/
def empty (x : Execution) : TaskGroup := ⟨x, [], .running⟩

/-- The top-level task with an id. -/
def task? (g : TaskGroup) (id : EventId) : Option Task := g.tasks.find? (·.id = id)

/-- Every task of the tree with its depth, a task before its sub-tasks. -/
def walk (g : TaskGroup) : List (Nat × Task) := Task.walkFrom (g.tasks.map (0, ·))

/-- The number of tasks in the tree. -/
def totalTasks (g : TaskGroup) : Nat := g.walk.length

/-- Whether work on every task of the tree has ended. -/
def isSettled (g : TaskGroup) : Bool := g.walk.all (·.2.isTerminal)

end TaskGroup

end HistoryTree
