import HistoryTree.Event.Basic
import HistoryTree.Json.Record
import HistoryTree.Timestamp.Parser
import HistoryTree.Timestamp.Printer

/-!
# Events as documents

An event is an object with its id, its time stamp if it has one, its type and the fields
of its type.  The members of other names are ignored, and a type of an unknown name reads
as `unrecognized`, so that entries of newer services stay readable.
-/

namespace HistoryTree

open Json

/-! ## Fields of an event type -/

/-- An event id as a value. -/
def EventId.toValue (i : EventId) : Value := Value.int i.value.toInt

namespace EventKind

/-- An event id. -/
def readId : Value → Except Failure EventId
  | .number n => (Reader.toInt64 n).map EventId.mk
  | v => mismatch (.wrongType v.found "i64")

/-- A text. -/
def readText : Value → Except Failure String
  | .string s => .ok s
  | v => mismatch (.wrongType v.found "a string")

/-- A text, or null for none. -/
def readOptionalText : Value → Except Failure (Option String)
  | .null => .ok none
  | v => (readText v).map some

/-- A column of event ids. -/
def idColumn (key : String) : Column Value := ⟨key, EventId, readId, none⟩

/-- A column of texts. -/
def textColumn (key : String) : Column Value := ⟨key, String, readText, none⟩

/-- A column of texts that may be missing. -/
def optionalTextColumn (key : String) : Column Value :=
  ⟨key, Option String, readOptionalText, some none⟩

end EventKind

open EventKind in
/-- The fields of an event type, in the order in which they are written. -/
def EventType.columns : EventType → List (Column Value)
  | workflowFailed => [optionalTextColumn "reason"]
  | workflowSignaled => [textColumn "signal_name"]
  | activityScheduled => [textColumn "activity_type_name"]
  | activityStarted | activityCompleted | activityFailed | activityTimedOut =>
    [idColumn "scheduled_event_id"]
  | childInitiated => [textColumn "workflow_type_name"]
  | childStarted =>
    [idColumn "initiated_event_id", textColumn "child_execution_id", textColumn "child_run_id"]
  | childCompleted | childFailed | childTimedOut => [idColumn "initiated_event_id"]
  | timerStarted => [optionalTextColumn "timer_id"]
  | timerFired | timerCanceled => [idColumn "started_event_id"]
  | markerRecorded => [textColumn "marker_name"]
  | workflowStarted | workflowCompleted | decisionScheduled | decisionStarted
  | decisionCompleted | unrecognized => []

/-- The types with their names. -/
def EventType.names : List (String × EventType) := EventType.all.map fun t => (t.name, t)

/-- The type of an event, by its name. -/
def EventType.reader : Reader EventType := Reader.variant EventType.names

namespace EventKind

/-- The kind with the fields of a row. -/
def ofRow : (t : EventType) → Row t.columns → EventKind
  | .workflowStarted, _ => workflowStarted
  | .workflowCompleted, _ => workflowCompleted
  | .workflowFailed, (reason, _) => workflowFailed reason
  | .workflowSignaled, (name, _) => workflowSignaled name
  | .decisionScheduled, _ => decisionScheduled
  | .decisionStarted, _ => decisionStarted
  | .decisionCompleted, _ => decisionCompleted
  | .activityScheduled, (name, _) => activityScheduled name
  | .activityStarted, (id, _) => activityStarted id
  | .activityCompleted, (id, _) => activityCompleted id
  | .activityFailed, (id, _) => activityFailed id
  | .activityTimedOut, (id, _) => activityTimedOut id
  | .childInitiated, (name, _) => childInitiated name
  | .childStarted, (id, child, run, _) => childStarted id ⟨child, run⟩
  | .childCompleted, (id, _) => childCompleted id
  | .childFailed, (id, _) => childFailed id
  | .childTimedOut, (id, _) => childTimedOut id
  | .timerStarted, (timer, _) => timerStarted timer
  | .timerFired, (id, _) => timerFired id
  | .timerCanceled, (id, _) => timerCanceled id
  | .markerRecorded, (name, _) => markerRecorded name
  | .unrecognized, _ => unrecognized

/-- The member of a text that may be missing. -/
def optionalMember (key : String) : Option String → List (String × Value)
  | none => []
  | some s => [(key, .string s)]

/-- The members for the fields of a kind. -/
def members : EventKind → List (String × Value)
  | workflowFailed reason => optionalMember "reason" reason
  | workflowSignaled name => [("signal_name", .string name)]
  | activityScheduled name => [("activity_type_name", .string name)]
  | activityStarted id | activityCompleted id | activityFailed id | activityTimedOut id =>
    [("scheduled_event_id", id.toValue)]
  | childInitiated name => [("workflow_type_name", .string name)]
  | childStarted id child =>
    [("initiated_event_id", id.toValue), ("child_execution_id", .string child.id),
      ("child_run_id", .string child.run)]
  | childCompleted id | childFailed id | childTimedOut id => [("initiated_event_id", id.toValue)]
  | timerStarted timer => optionalMember "timer_id" timer
  | timerFired id | timerCanceled id => [("started_event_id", id.toValue)]
  | markerRecorded name => [("marker_name", .string name)]
  | workflowStarted | workflowCompleted | decisionScheduled | decisionStarted
  | decisionCompleted | unrecognized => []

/-- The kind as an object that starts with its type. -/
def toValue (k : EventKind) : Value :=
  .object (("event_type", .string k.type.name) :: k.members)

/-! ## Reading a kind -/

/-- The type that a name stands for. -/
def typeOfName (s : String) : EventType := (EventType.ofName? s).getD .unrecognized

/-- The type that a value names: by its name, or by its place in the list of types. -/
def readType : Value → Except Failure EventType
  | .string s => .ok (typeOfName s)
  | .number (.integer n) =>
    if 0 ≤ n then .ok (EventType.all[n.toNat]?.getD .unrecognized)
    else mismatch (.wrongType (.number (.integer n)) "variant identifier")
  | v => mismatch (.wrongType v.found "variant identifier")

/-- The column of the type among values. -/
def typeColumn : Column Value := ⟨"event_type", EventType, readType, none⟩

/-- The kind with the fields that are found among the members of an object. -/
def ofFields (t : EventType) (ms : List (String × Value)) : Except Failure EventKind :=
  (Row.ofValues t.columns ms).map fun p => ofRow t p.1

/-- The kind whose fields are the items of an array. -/
def ofItems (t : EventType) (vs : List Value) : Except Failure EventKind :=
  let n := t.columns.length
  match Row.ofValueItems ("struct variant EventKind::" ++ t.name ++ " with " ++ elements n) 0
      t.columns vs with
  | .error e => .error e
  | .ok (row, []) => .ok (ofRow t row)
  | .ok (_, v :: rest) =>
    mismatch (.wrongLength (n + (v :: rest).length) (elements n ++ " in sequence"))

/-- The kind with a type and fields among the members of an object. -/
def ofMembers (ms : List (String × Value)) : Except Failure EventKind :=
  match Row.ofValues [typeColumn] ms with
  | .error e => .error e
  | .ok ((t, _), rest) => ofFields t rest

/-- The column of the type in a document that holds a kind alone, where only names count. -/
def nameColumn : Column Tree :=
  ⟨"event_type", EventType, fun t => (Reader.identifier t).map typeOfName, none⟩

/-- A kind alone, as an object or as an array that starts with the type. -/
def reader : Reader EventKind
  | 0, .object _ _ => defect .malformed
  | 0, .array _ _ => defect .malformed
  | levels + 1, .object ms ending =>
    match Row.ofMembers [nameColumn] (Reader.any levels) ending ms with
    | .error e => .error e
    | .ok ((t, _), rest) => ofFields t rest
  | _ + 1, .array [] ending => do
      ending.check
      mismatch (.missingField "event_type")
  | levels + 1, .array (t :: ts) ending => do
      let type ← nameColumn.read t
      let vs ← Reader.items (Reader.any levels) ending ts
      ofItems type vs
  | _, t => t.refuse "internally tagged enum EventKind"

end EventKind

/-! ## Reading and writing an event -/

/-- A time stamp. -/
def Timestamp.reader : Reader Timestamp
  | _, .string s =>
    match s.get with
    | .error e => .error e
    | .ok text =>
      match Timestamp.parse text with
      | .ok t => .ok t
      | .error e => mismatch (.refusedText e.message)
  | _, t => t.refuse "an RFC 3339 formatted date and time string"

namespace HistoryEvent

/-- The event as an object: id, time stamp if it has one, type and fields. -/
def toValue (e : HistoryEvent) : Value :=
  .object (("event_id", e.id.toValue) ::
    (match e.timestamp with
      | none => []
      | some t => [("timestamp", .string t.text)])
    ++ ("event_type", .string e.kind.type.name) :: e.kind.members)

/-- The columns of an event apart from its kind. -/
def columns (levels : Nat) : List (Column Tree) :=
  [⟨"event_id", EventId, fun t => (Reader.int64 levels t).map EventId.mk, none⟩,
    ⟨"timestamp", Option Timestamp, Reader.optional Timestamp.reader levels, some none⟩]

/-- An event, read from an object only.  Its kind is read once all members are there. -/
def reader : Reader HistoryEvent
  | 0, .object _ _ => defect .malformed
  | levels + 1, .object ms ending =>
    match Row.ofMembers (columns levels) (Reader.any levels) ending ms with
    | .error e => .error e
    | .ok ((id, timestamp, _), rest) => (EventKind.ofMembers rest).map (⟨id, timestamp, ·⟩)
  | _, t => t.refuse "struct HistoryEvent"

end HistoryEvent

namespace History

/-- A history as an array of events. -/
def toValue (h : History) : Value := .array (h.map HistoryEvent.toValue)

/-- A history. -/
def reader : Reader History := Reader.list HistoryEvent.reader

end History

end HistoryTree
