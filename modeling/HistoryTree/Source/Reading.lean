import HistoryTree.Event.Basic
import HistoryTree.Source.Error

/-!
# Reading a history from a source

A source is asked for the history of an execution and answers with a stream of events.
`Reading.drain` waits for the whole stream: what arrived before a failure does not count.
-/

namespace HistoryTree

/-- What follows the events of a stream. -/
inductive StreamEnd where
  | complete
  | broke (e : SourceError)
  /-- Nothing more arrives. -/
  | stalled
  /-- Cancellation is requested, and nothing more arrives. -/
  | cancelling
  deriving DecidableEq, Repr

/-- What asking a source for a history leads to. -/
inductive Reading where
  | refused (e : SourceError)
  /-- The source does not answer. -/
  | unanswered
  | streamed (events : History) (ending : StreamEnd)
  deriving DecidableEq, Repr

/-- What waiting for the end of a history leads to. -/
inductive Drained where
  | history (h : History)
  | failed (e : SourceError)
  /-- The end does not come. -/
  | stalled
  /-- Cancellation is requested, and the end does not come. -/
  | cancelling
  deriving DecidableEq, Repr

/-- Waits for the end of a history. -/
def Reading.drain : Reading → Drained
  | refused e => .failed e
  | unanswered => .stalled
  | streamed events .complete => .history events
  | streamed _ (.broke e) => .failed e
  | streamed _ .stalled => .stalled
  | streamed _ .cancelling => .cancelling

/-- The reading of a history that is at hand. -/
def Reading.whole (h : History) : Reading := .streamed h .complete

/-- A supplier of histories, which may change with every request. -/
abbrev Source (σ : Type) := Execution → StateM σ Reading

end HistoryTree
