import HistoryTree.Projection.Registry
import HistoryTree.Source.Reading

/-!
# Expanding executions into task groups

An execution is projected from its whole history; each child execution that an event asks
for is projected in turn, and its tasks are hung below the task that started it.  `expand`
counts down the levels of nesting that are left, and keeps the chain of executions above.

A `Session` is what a sequence of projections from one source leaves behind: the state of
the source, the executions whose histories were asked for, and whether cancellation was
requested.
-/

namespace HistoryTree

/-- The bounds of a projection. -/
structure Limits where
  /-- The time that the whole history of one execution may take, in milliseconds. -/
  timeout : Option Nat := some 30000
  /-- How deep child executions may be nested below the projected one. -/
  maxDepth : Nat := 16
  /-- Whether an execution below itself is refused. -/
  detectCycles : Bool := true
  deriving DecidableEq, Repr

/-- How a projection ends without a result. -/
inductive Halt where
  | failed (e : ProjectionError)
  /-- The history of an execution does not end, and nothing ends the wait for it. -/
  | waiting (x : Execution)
  deriving DecidableEq, Repr

/-- How the wait for a history that does not end is given up. -/
def Limits.giveUp (limits : Limits) (x : Execution) : Halt :=
  match limits.timeout with
  | some _ => .failed (.source (.timeout x))
  | none => .waiting x

/-- The history that arrives within the limits. -/
def Limits.await (limits : Limits) (x : Execution) : Drained → Except Halt History
  | .history h => .ok h
  | .failed e => .error (.failed (.source e))
  | .stalled | .cancelling => .error (limits.giveUp x)

namespace Expansion

variable {m : Type → Type} [Monad m] [MonadExceptOf Halt m]

/-- Applies the events of a history in order; `expand` projects a child execution. -/
def applyAll (registry : Registry) (expand : Execution → m TaskGroup) :
    History → Projection → m Projection
  | [], p => return p
  | e :: rest, p =>
    match registry.dispatch e p with
    | .error err _ => throw (.failed err)
    | .ok .applied p' => applyAll registry expand rest p'
    | .ok (.expandChild task child) p' => do
      let g ← expand child
      match Projection.attachChild e.id task g p' with
      | .error err _ => throw (.failed err)
      | .ok () p'' => applyAll registry expand rest p''

/-- Projects an execution below a chain of ancestors, the nearest one first, where `levels` more
executions may be nested into each other. -/
def expand (registry : Registry) (limits : Limits) (fetch : Execution → m History) :
    (levels : Nat) → (chain : List Execution) → Execution → m TaskGroup
  | 0, _, x => throw (.failed (.tooDeep x limits.maxDepth))
  | levels + 1, chain, x => do
    if limits.detectCycles && chain.contains x then throw (.failed (.cycle x))
    let events ← fetch x
    let p ← applyAll registry (expand registry limits fetch levels (x :: chain)) events (.start x)
    return p.group

/-- Projects an execution and all executions below it. -/
def project (registry : Registry) (limits : Limits) (fetch : Execution → m History)
    (x : Execution) : m TaskGroup :=
  expand registry limits fetch (limits.maxDepth + 1) [] x

end Expansion

/-! ## Sessions -/

/-- What projections from one source leave behind. -/
structure Session (σ : Type) where
  source : σ
  /-- The executions whose histories were asked for, in order. -/
  fetched : List Execution
  /-- Whether cancellation was requested, which is never taken back. -/
  cancelled : Bool
  deriving Repr

/-- A computation within a session. -/
abbrev Run (σ α : Type) := EStateM Halt (Session σ) α

namespace Session

variable {σ : Type}

/-- The session before the first projection. -/
def start (source : σ) : Session σ := ⟨source, [], false⟩

/-- The session after cancellation was requested. -/
def cancel (s : Session σ) : Session σ := { s with cancelled := true }

/-- Ends the wait for a history that does not end: at once when cancellation is watched for and
was requested, and at the time limit otherwise. -/
def wait (limits : Limits) (watching : Bool) (x : Execution) : Run σ History := fun s =>
  if watching && s.cancelled then .error (.failed (.source .cancelled)) s
  else .error (limits.giveUp x) s

/-- Asks the source for the history of an execution and waits for its end. -/
def fetch (source : Source σ) (limits : Limits) (watching : Bool) (x : Execution) :
    Run σ History := fun s =>
  let (reading, source') := source x s.source
  let s' := { s with source := source', fetched := s.fetched ++ [x] }
  match reading.drain with
  | .history h => .ok h s'
  | .failed e => .error (.failed (.source e)) s'
  | .stalled => wait limits watching x s'
  | .cancelling => wait limits watching x s'.cancel

/-- Projects an execution, whether or not cancellation is requested. -/
def project (source : Source σ) (registry : Registry) (limits : Limits) (x : Execution) :
    Run σ TaskGroup :=
  Expansion.project registry limits (fetch source limits false) x

/-- Projects an execution unless cancellation is requested before it is complete. -/
def projectUnlessCancelled (source : Source σ) (registry : Registry) (limits : Limits)
    (x : Execution) : Run σ TaskGroup := do
  if (← get).cancelled then throw (.failed (.source .cancelled))
  Expansion.project registry limits (fetch source limits true) x

variable {registry : Registry} {limits : Limits} {s : Session σ} {x : Execution}

/-- A request for cancellation that came first ends a projection before it asks for anything. -/
theorem projectUnlessCancelled_of_cancelled (source : Source σ) (h : s.cancelled = true) :
    projectUnlessCancelled source registry limits x s
      = .error (.failed (.source .cancelled)) s := by
  obtain ⟨_, _, _⟩ := s
  cases h
  rfl

theorem projectUnlessCancelled_of_not_cancelled (source : Source σ) (h : s.cancelled = false) :
    projectUnlessCancelled source registry limits x s
      = Expansion.project registry limits (fetch source limits true) x s := by
  obtain ⟨_, _, _⟩ := s
  cases h
  rfl

end Session

end HistoryTree
