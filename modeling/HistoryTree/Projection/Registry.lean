import HistoryTree.Projection.Rule

/-!
# Registries

A registry says which handler applies the events of which type; events of the other types
are passed over.
-/

namespace HistoryTree

/-- A handler for each type of event that is not passed over. -/
structure Registry where
  handler? : EventType → Option Handler

namespace Registry

/-- Passes over every event. -/
def empty : Registry := ⟨fun _ => none⟩

/-- The registry of the standard handlers. -/
def standard : Registry := ⟨EventType.standardHandler?⟩

/-- The registry with a handler for a type in place of an earlier one. -/
def register (r : Registry) (t : EventType) (h : Handler) : Registry :=
  ⟨fun t' => if t' = t then some h else r.handler? t'⟩

/-- The registry that passes over events of a type. -/
def unregister (r : Registry) (t : EventType) : Registry :=
  ⟨fun t' => if t' = t then none else r.handler? t'⟩

/-- The registry with the standard handlers in place of earlier ones for their types. -/
def registerStandard (r : Registry) : Registry :=
  ⟨fun t => t.standardHandler?.or (r.handler? t)⟩

/-- Whether events of a type are handled. -/
def isRegistered (r : Registry) (t : EventType) : Bool := (r.handler? t).isSome

/-- The types with a handler, in the order in which the types are listed. -/
def eventTypes (r : Registry) : List EventType := EventType.all.filter r.isRegistered

/-- The number of types with a handler. -/
def size (r : Registry) : Nat := r.eventTypes.length

/-- Whether every event is passed over. -/
def isEmpty (r : Registry) : Bool := r.eventTypes.isEmpty

/-- A description that lists the types with a handler. -/
def text (r : Registry) : String :=
  "TransformRegistry \x7b event_types: ["
    ++ String.intercalate ", " (r.eventTypes.map EventType.name) ++ "] \x7d"

/-- Applies an event, or passes over it. -/
def dispatch (r : Registry) (e : HistoryEvent) : Step Outcome :=
  match r.handler? e.type with
  | some h => h e
  | none => return .applied

/-! ## Laws -/

theorem handler?_register (r : Registry) (t u : EventType) (h : Handler) :
    (r.register t h).handler? u = if u = t then some h else r.handler? u := rfl

theorem handler?_unregister (r : Registry) (t u : EventType) :
    (r.unregister t).handler? u = if u = t then none else r.handler? u := rfl

theorem mem_eventTypes {r : Registry} {t : EventType} :
    t ∈ r.eventTypes ↔ r.isRegistered t := by
  simp [eventTypes, EventType.mem_all]

theorem size_standard : standard.size = 16 := rfl

end Registry

end HistoryTree
