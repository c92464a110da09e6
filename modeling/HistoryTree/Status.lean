/-!
# Statuses

A task moves forward from scheduled to running to one of four terminal statuses; a task
group runs until it completes or fails.  Main statements: an allowed move never lowers
the rank (`TaskStatus.rank_le_of_canMoveTo`), and nothing leaves a terminal status
(`TaskStatus.not_canMoveTo_of_isTerminal`).
-/

namespace HistoryTree

/-- The status of a task. -/
inductive TaskStatus where
  | scheduled | running | completed | failed | timedOut | canceled
  deriving DecidableEq, Repr

namespace TaskStatus

/-- Every status, in the order in which the statuses are listed. -/
def all : List TaskStatus := [scheduled, running, completed, failed, timedOut, canceled]

/-- The name of a status. -/
def text : TaskStatus → String
  | scheduled => "scheduled"
  | running => "running"
  | completed => "completed"
  | failed => "failed"
  | timedOut => "timedOut"
  | canceled => "canceled"

/-- The code of a status in a rendered tree. -/
def shortCode : TaskStatus → String
  | scheduled => "s"
  | running => "r"
  | completed => "c"
  | failed => "f"
  | timedOut => "t"
  | canceled => "ca"

/-- How far along a status is. -/
def rank : TaskStatus → Nat
  | scheduled => 0
  | running => 1
  | completed | failed | timedOut | canceled => 2

/-- Whether work on the task has ended. -/
def isTerminal (s : TaskStatus) : Bool := s.rank == 2

/-- Whether a task may move from one status to another: from a status that is not terminal, to
itself or forward. -/
def canMoveTo (s next : TaskStatus) : Bool := !s.isTerminal && (s == next || s.rank < next.rank)

theorem not_canMoveTo_of_isTerminal {s : TaskStatus} (h : s.isTerminal) (next : TaskStatus) :
    s.canMoveTo next = false := by
  simp [canMoveTo, h]

theorem rank_le_of_canMoveTo {s next : TaskStatus} (h : s.canMoveTo next) :
    s.rank ≤ next.rank := by
  cases s <;> cases next <;> revert h <;> decide

theorem text_injective {s t : TaskStatus} (h : s.text = t.text) : s = t := by
  cases s <;> cases t <;> first | rfl | exact absurd h (by decide)

theorem shortCode_injective {s t : TaskStatus} (h : s.shortCode = t.shortCode) : s = t := by
  cases s <;> cases t <;> first | rfl | exact absurd h (by decide)

end TaskStatus

/-- The status of a task group. -/
inductive GroupStatus where
  | running | completed | failed
  deriving DecidableEq, Repr

namespace GroupStatus

/-- Every status, in the order in which the statuses are listed. -/
def all : List GroupStatus := [running, completed, failed]

/-- The name of a status. -/
def text : GroupStatus → String
  | running => "running"
  | completed => "completed"
  | failed => "failed"

/-- The code of a status in a short report. -/
def shortCode : GroupStatus → String
  | running => "r"
  | completed => "c"
  | failed => "f"

/-- Whether the execution has closed. -/
def isTerminal : GroupStatus → Bool
  | running => false
  | completed | failed => true

/-- Whether a group may move from one status to another: only a running group moves, to any
status. -/
def canMoveTo (s next : GroupStatus) : Bool := !s.isTerminal && (s == next || next.isTerminal)

theorem text_injective {s t : GroupStatus} (h : s.text = t.text) : s = t := by
  cases s <;> cases t <;> first | rfl | exact absurd h (by decide)

theorem canMoveTo_iff {s next : GroupStatus} : s.canMoveTo next ↔ s = running := by
  cases s <;> cases next <;> decide

end GroupStatus

end HistoryTree
