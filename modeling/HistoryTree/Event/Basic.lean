import HistoryTree.Event.Kind
import HistoryTree.Timestamp.Basic

/-!
# History events

An event is one entry of the history of an execution, with its position and, if the
service reported it, the time at which it was recorded.
-/

namespace HistoryTree

/-- One entry of a history. -/
structure HistoryEvent where
  id : EventId
  timestamp : Option Timestamp
  kind : EventKind
  deriving DecidableEq, Repr

namespace HistoryEvent

/-- An event without a time stamp. -/
def of (id : EventId) (kind : EventKind) : HistoryEvent := ⟨id, none, kind⟩

/-- The type of an event. -/
def type (e : HistoryEvent) : EventType := e.kind.type

/-- The event with a time stamp. -/
def recordedAt (e : HistoryEvent) (t : Timestamp) : HistoryEvent := { e with timestamp := some t }

end HistoryEvent

/-- The events of one execution in the order in which they were recorded. -/
abbrev History := List HistoryEvent

end HistoryTree
