import HistoryTree.Execution

/-!
# Event types and kinds

The entries that an orchestration service writes into a history: what happened to the
workflow, to its decisions, activities, child executions and timers.  An `EventKind`
carries what its type needs; an entry of a type that is not listed is `unrecognized`.
Main statement: every type has its own name (`EventType.ofName?_name`).
-/

namespace HistoryTree

/-- The type of a history entry. -/
inductive EventType where
  | workflowStarted | workflowCompleted | workflowFailed | workflowSignaled
  | decisionScheduled | decisionStarted | decisionCompleted
  | activityScheduled | activityStarted | activityCompleted | activityFailed | activityTimedOut
  | childInitiated | childStarted | childCompleted | childFailed | childTimedOut
  | timerStarted | timerFired | timerCanceled
  | markerRecorded
  | unrecognized
  deriving DecidableEq, Repr

namespace EventType

/-- Every type, in the order in which the types are listed and numbered. -/
def all : List EventType :=
  [workflowStarted, workflowCompleted, workflowFailed, workflowSignaled,
    decisionScheduled, decisionStarted, decisionCompleted,
    activityScheduled, activityStarted, activityCompleted, activityFailed, activityTimedOut,
    childInitiated, childStarted, childCompleted, childFailed, childTimedOut,
    timerStarted, timerFired, timerCanceled, markerRecorded, unrecognized]

/-- The name of a type. -/
def name : EventType → String
  | workflowStarted => "WorkflowExecutionStarted"
  | workflowCompleted => "WorkflowExecutionCompleted"
  | workflowFailed => "WorkflowExecutionFailed"
  | workflowSignaled => "WorkflowExecutionSignaled"
  | decisionScheduled => "DecisionTaskScheduled"
  | decisionStarted => "DecisionTaskStarted"
  | decisionCompleted => "DecisionTaskCompleted"
  | activityScheduled => "ActivityTaskScheduled"
  | activityStarted => "ActivityTaskStarted"
  | activityCompleted => "ActivityTaskCompleted"
  | activityFailed => "ActivityTaskFailed"
  | activityTimedOut => "ActivityTaskTimedOut"
  | childInitiated => "StartChildWorkflowExecutionInitiated"
  | childStarted => "ChildWorkflowExecutionStarted"
  | childCompleted => "ChildWorkflowExecutionCompleted"
  | childFailed => "ChildWorkflowExecutionFailed"
  | childTimedOut => "ChildWorkflowExecutionTimedOut"
  | timerStarted => "TimerStarted"
  | timerFired => "TimerFired"
  | timerCanceled => "TimerCanceled"
  | markerRecorded => "MarkerRecorded"
  | unrecognized => "Unrecognized"

/-- The type with a name. -/
def ofName? (s : String) : Option EventType := all.find? (·.name = s)

theorem mem_all (t : EventType) : t ∈ all := by cases t <;> decide

theorem ofName?_name (t : EventType) : ofName? t.name = some t := by cases t <;> decide

theorem name_injective {s t : EventType} (h : s.name = t.name) : s = t :=
  Option.some.inj ((ofName?_name s).symm.trans (h ▸ ofName?_name t))

end EventType

/-- What a history entry says. -/
inductive EventKind where
  | workflowStarted
  | workflowCompleted
  | workflowFailed (reason : Option String)
  | workflowSignaled (signalName : String)
  | decisionScheduled
  | decisionStarted
  | decisionCompleted
  | activityScheduled (typeName : String)
  | activityStarted (scheduled : EventId)
  | activityCompleted (scheduled : EventId)
  | activityFailed (scheduled : EventId)
  | activityTimedOut (scheduled : EventId)
  | childInitiated (typeName : String)
  | childStarted (initiated : EventId) (child : Execution)
  | childCompleted (initiated : EventId)
  | childFailed (initiated : EventId)
  | childTimedOut (initiated : EventId)
  | timerStarted (timerId : Option String)
  | timerFired (started : EventId)
  | timerCanceled (started : EventId)
  | markerRecorded (markerName : String)
  | unrecognized
  deriving DecidableEq, Repr

namespace EventKind

/-- The type of an entry. -/
def type : EventKind → EventType
  | workflowStarted => .workflowStarted
  | workflowCompleted => .workflowCompleted
  | workflowFailed _ => .workflowFailed
  | workflowSignaled _ => .workflowSignaled
  | decisionScheduled => .decisionScheduled
  | decisionStarted => .decisionStarted
  | decisionCompleted => .decisionCompleted
  | activityScheduled _ => .activityScheduled
  | activityStarted _ => .activityStarted
  | activityCompleted _ => .activityCompleted
  | activityFailed _ => .activityFailed
  | activityTimedOut _ => .activityTimedOut
  | childInitiated _ => .childInitiated
  | childStarted .. => .childStarted
  | childCompleted _ => .childCompleted
  | childFailed _ => .childFailed
  | childTimedOut _ => .childTimedOut
  | timerStarted _ => .timerStarted
  | timerFired _ => .timerFired
  | timerCanceled _ => .timerCanceled
  | markerRecorded _ => .markerRecorded
  | unrecognized => .unrecognized

/-- The earlier event that an entry about the course of a task refers to. -/
def reference? : EventKind → Option EventId
  | activityStarted id | activityCompleted id | activityFailed id | activityTimedOut id
  | childStarted id _ | childCompleted id | childFailed id | childTimedOut id
  | timerFired id | timerCanceled id => some id
  | _ => none

/-- The type name of the work that an entry schedules. -/
def typeName? : EventKind → Option String
  | activityScheduled typeName | childInitiated typeName => some typeName
  | _ => none

/-- The child execution that an entry reports as started. -/
def child? : EventKind → Option Execution
  | childStarted _ child => some child
  | _ => none

end EventKind

end HistoryTree
