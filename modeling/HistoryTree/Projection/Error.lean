import HistoryTree.Event.Kind
import HistoryTree.Source.Error
import HistoryTree.Violation

/-!
# Why a projection is given up

The causes that end a projection, each with the text that reports it.
-/

namespace HistoryTree

/-- Why a projection is given up. -/
inductive ProjectionError where
  /-- A history cannot be fetched. -/
  | source (e : SourceError)
  /-- An event refers to an event that created no task. -/
  | unknownReference (event reference : EventId)
  /-- A task with this id is already there. -/
  | duplicateTask (event task : EventId)
  /-- An event would break a rule of the task model. -/
  | violation (event : EventId) (cause : Violation)
  /-- A handler met an event of another type than its own. -/
  | unexpectedEvent (event : EventId) (expected : EventType)
  /-- An execution is nested deeper than the limit. -/
  | tooDeep (x : Execution) (limit : Nat)
  /-- An execution is one of its own ancestors. -/
  | cycle (x : Execution)
  deriving DecidableEq, Repr

namespace ProjectionError

/-- The text that reports why a projection is given up. -/
def message : ProjectionError → String
  | source e => e.message
  | unknownReference event reference =>
    "event " ++ event.text ++ " references unknown event " ++ reference.text
  | duplicateTask event task =>
    "event " ++ event.text ++ " creates task " ++ task.text ++ ", which already exists"
  | violation event cause => "event " ++ event.text ++ ": " ++ cause.message
  | unexpectedEvent event expected =>
    "event " ++ event.text ++ " is not a " ++ expected.name ++ " event"
  | tooDeep x limit =>
    "child execution " ++ x.text ++ " exceeds nesting limit of "
      ++ String.ofList (Text.decimal limit)
  | cycle x => "execution " ++ x.text ++ " appears among its own ancestors"

/-- Whether a history could not be fetched. -/
def isSource : ProjectionError → Bool
  | source _ => true
  | _ => false

/-- Whether a reference led nowhere. -/
def isUnknownReference : ProjectionError → Bool
  | unknownReference .. => true
  | _ => false

end ProjectionError

end HistoryTree
