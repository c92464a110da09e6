import HistoryTree.Proofs.Expansion.Steps
import HistoryTree.Proofs.Projection.Causes

/-!
# Expansions along one list of ancestors

`Expansion.expand` hands every call a chain of its own.  The same expansion can be run along a
single list of ancestors that all calls share: a call shows the list to the guards, puts its
execution on it, applies the history, and takes the execution off again, whether or not the
history could be applied.  A `Course` is a session with this list and a record of the calls, and
`Walk.visit` runs an expansion along it.  Its handlers may act on the source as well
(`Dispatch`), which those of a registry never do (`Registry.dispatcher`).

With the handlers of a registry, both ways to run an expansion lead to the same
(`Walk.erases_visit`): the shared list is at every call the chain that `Expansion.expand` hands
to it.
-/

namespace HistoryTree

/-! ## The guards -/

/-- The guards in front of an execution: nesting is looked at first, then cycles. -/
def Limits.refusal? (limits : Limits) (chain : List Execution) (x : Execution) :
    Option ProjectionError :=
  if limits.maxDepth < chain.length then some (.tooDeep x limits.maxDepth)
  else if limits.detectCycles && chain.contains x then some (.cycle x)
  else none

namespace Limits

variable {limits : Limits} {chain : List Execution} {x : Execution} {cause : ProjectionError}

theorem refusal?_of_tooDeep (h : limits.maxDepth < chain.length) :
    limits.refusal? chain x = some (.tooDeep x limits.maxDepth) := by
  rw [refusal?, if_pos h]

theorem refusal?_of_le (h : chain.length ≤ limits.maxDepth) :
    limits.refusal? chain x
      = if limits.detectCycles && chain.contains x then some (.cycle x) else none := by
  rw [refusal?, if_neg (Nat.not_lt.2 h)]

/-- A refusal names the guard that is not passed, the one for depth first. -/
theorem refusal?_eq_some_iff : limits.refusal? chain x = some cause ↔
    (limits.maxDepth < chain.length ∧ cause = .tooDeep x limits.maxDepth) ∨
      (chain.length ≤ limits.maxDepth ∧ limits.detectCycles = true ∧ x ∈ chain ∧
        cause = .cycle x) := by
  rcases Nat.lt_or_ge limits.maxDepth chain.length with h | h
  · simp [refusal?_of_tooDeep h, h, Nat.not_le.2 h, @eq_comm _ cause]
  · simp [refusal?_of_le h, h, Nat.not_lt.2 h, and_assoc, @eq_comm _ cause]

/-- Nothing is refused exactly if both guards are passed. -/
theorem refusal?_eq_none_iff : limits.refusal? chain x = none ↔ limits.Permits chain x := by
  rw [Permits]
  rcases Nat.lt_or_ge limits.maxDepth chain.length with h | h
  · simp [refusal?_of_tooDeep h, Nat.not_le.2 h]
  · simp [refusal?_of_le h, h]

end Limits

/-! ## Courses -/

/-- What happens to a call that projects an execution, with the ancestors at that moment. -/
inductive Moment where
  /-- A guard refuses the execution. -/
  | refused (x : Execution) (ancestors : List Execution) (cause : ProjectionError)
  /-- The guards let the execution pass. -/
  | entered (x : Execution) (ancestors : List Execution)
  /-- The call returns, with tasks or with a failure. -/
  | left (x : Execution) (ancestors : List Execution)
  deriving DecidableEq, Repr

/-- A session in the middle of an expansion. -/
structure Course (σ : Type) where
  session : Session σ
  /-- The list that all calls share, the nearest ancestor first. -/
  ancestors : List Execution
  /-- What happened to the calls so far, in order. -/
  calls : List Moment
  deriving Repr

/-- Handlers that may read and change what the source keeps. -/
abbrev Dispatch (σ : Type) :=
  HistoryEvent → Projection → StateM σ (EStateM.Result ProjectionError Projection Outcome)

/-- The handlers of a registry, which leave the source alone. -/
def Registry.dispatcher {σ : Type} (r : Registry) : Dispatch σ := fun e p => pure (r.dispatch e p)

/-- No handler fails for what the guards look for. -/
def Dispatch.LeavesGuards {σ : Type} (dispatch : Dispatch σ) : Prop :=
  ∀ cause, cause.isGuard = true → ∀ e p source q, (dispatch e p source).1 ≠ .error cause q

theorem Registry.LeavesGuards.dispatcher {σ : Type} {r : Registry} (hr : r.LeavesGuards) :
    (r.dispatcher : Dispatch σ).LeavesGuards :=
  fun cause hguard e p _ q => (hr cause hguard).dispatch e p q

namespace Course

variable {σ : Type}

/-- The course of an expansion that has not made a call yet. -/
def start (s : Session σ) : Course σ := ⟨s, [], []⟩

/-- The course after one more moment. -/
def note (w : Course σ) (moment : List Execution → Moment) : Course σ :=
  { w with calls := w.calls ++ [moment w.ancestors] }

/-- The course with one more ancestor. -/
def push (w : Course σ) (x : Execution) : Course σ := { w with ancestors := x :: w.ancestors }

/-- The course without the nearest ancestor. -/
def pop (w : Course σ) : Course σ := { w with ancestors := w.ancestors.tail }

end Course

/-! ## Walks -/

/-- A computation along a course. -/
abbrev Walk (σ α : Type) := EStateM Halt (Course σ) α

/-- Takes a last step wherever a computation returns; one that waits never gets there. -/
def lastly {τ α : Type} (last : τ → τ) : EStateM.Result Halt τ α → EStateM.Result Halt τ α
  | .ok a w => .ok a (last w)
  | .error (.failed e) w => .error (.failed e) (last w)
  | .error (.waiting x) w => .error (.waiting x) w

namespace Walk

variable {σ α β : Type}

/-- Goes on where the guards let an execution pass. -/
def guarded (limits : Limits) (x : Execution) (walk : Walk σ α) : Walk σ α := fun w =>
  match limits.refusal? w.ancestors x with
  | some cause => .error (.failed cause) (w.note fun ancestors => .refused x ancestors cause)
  | none => walk w

/-- Enters an execution by asking for its history. -/
def entering (x : Execution) (ask : Run σ History) : Walk σ History := fun w =>
  match ask w.session with
  | .ok h s => .ok h { w.note (.entered x) with session := s }
  | .error halt s => .error halt { w.note (.entered x) with session := s }

/-- Runs a computation with one more ancestor, which is taken off again when it returns. -/
def below (x : Execution) (walk : Walk σ α) : Walk σ α := fun w =>
  lastly Course.pop (walk (w.push x))

/-- Notes the return from an execution. -/
def leaving (x : Execution) (walk : Walk σ α) : Walk σ α := fun w =>
  lastly (fun w' => w'.note (.left x)) (walk w)

/-- Applies one event, as far as no child execution is needed for it. -/
def handle (dispatch : Dispatch σ) (e : HistoryEvent) (p : Projection) :
    Walk σ (EStateM.Result ProjectionError Projection Outcome) := fun w =>
  let (outcome, source) := dispatch e p w.session.source
  .ok outcome { w with session := { w.session with source := source } }

/-- Applies the events of a history in order; `visit` projects a child execution. -/
def applyAll (dispatch : Dispatch σ) (visit : Execution → Walk σ TaskGroup) :
    History → Projection → Walk σ Projection
  | [], p => return p
  | e :: rest, p => do
    match ← handle dispatch e p with
    | .error err _ => throw (.failed err)
    | .ok .applied p' => applyAll dispatch visit rest p'
    | .ok (.expandChild task child) p' => do
      let g ← visit child
      match Projection.attachChild e.id task g p' with
      | .error err _ => throw (.failed err)
      | .ok () p'' => applyAll dispatch visit rest p''

/-- Projects an execution below the ancestors on the list, where at most `levels` executions may
be nested into each other. -/
def visit (dispatch : Dispatch σ) (limits : Limits) (fetch : Execution → Run σ History) :
    (levels : Nat) → Execution → Walk σ TaskGroup
  -- the list is too long here for anything to pass the guards
  | 0, x => guarded limits x (throw (.failed (.tooDeep x limits.maxDepth)))
  | levels + 1, x => guarded limits x (leaving x do
    let events ← entering x (fetch x)
    let p ← below x (applyAll dispatch (visit dispatch limits fetch levels) events (.start x))
    return p.group)

/-- Projects an execution and all executions below it, from the session `s` on. -/
def run (source : Source σ) (dispatch : Dispatch σ) (limits : Limits) (watching : Bool)
    (x : Execution) (s : Session σ) : EStateM.Result Halt (Course σ) TaskGroup :=
  visit dispatch limits (Session.fetch source limits watching) (limits.maxDepth + 1) x (.start s)

/-! ## Leaving the record out -/

/-- What a computation leads to, without the list of ancestors and the record of calls. -/
def forget : EStateM.Result Halt (Course σ) α → EStateM.Result Halt (Session σ) α
  | .ok a w => .ok a w.session
  | .error halt w => .error halt w.session

/-- Below a chain of ancestors, a computation along a course leads to what one within the session
leads to, and gives the list back as it was. -/
def Erases (chain : List Execution) (α : Type) (walk : Walk σ α) (run : Run σ α) : Prop :=
  ∀ w, w.ancestors = chain → forget (walk w) = run w.session ∧
    ∀ a w', walk w = .ok a w' → w'.ancestors = chain

variable {chain : List Execution} {walk : Walk σ α} {run : Run σ α} {limits : Limits}
  {x : Execution} {registry : Registry} {fetch : Execution → Run σ History}

theorem erases_bind {f : α → Walk σ β} {g : α → Run σ β} (hwalk : Erases chain α walk run)
    (hf : ∀ a, Erases chain β (f a) (g a)) : Erases chain β (walk >>= f) (run >>= g) := by
  intro w hw
  obtain ⟨hrun, hchain⟩ := hwalk w hw
  show forget (EStateM.bind walk f w) = EStateM.bind run g w.session ∧
    ∀ b w', EStateM.bind walk f w = .ok b w' → w'.ancestors = chain
  rw [EStateM.bind, EStateM.bind, ← hrun]
  cases h : walk w with
  | ok a w' => exact hf a w' (hchain a w' h)
  | error halt w' => exact ⟨rfl, by rintro _ _ ⟨⟩⟩

/-- A walk whose parts are expansions without the list of ancestors is such an expansion. -/
theorem erases_congruence (chain : List Execution) :
    Expansion.Congruence fun α (walk : Walk σ α) run => Erases chain α walk run where
  pure a w hw := by
    refine ⟨rfl, ?_⟩
    rintro _ _ ⟨⟩
    exact hw
  throw halt w _ := ⟨rfl, by rintro _ _ ⟨⟩⟩
  bind := erases_bind

theorem erases_guarded_of_refusal {cause : ProjectionError}
    (h : limits.refusal? chain x = some cause) :
    Erases chain α (guarded limits x walk) (throw (.failed cause)) := by
  rintro w rfl
  rw [guarded, h]
  exact ⟨rfl, by rintro _ _ ⟨⟩⟩

theorem erases_guarded (h : limits.refusal? chain x = none) (hwalk : Erases chain α walk run) :
    Erases chain α (guarded limits x walk) run := by
  rintro w rfl
  rw [guarded, h]
  exact hwalk w rfl

theorem erases_entering (ask : Run σ History) : Erases chain _ (entering x ask) ask := by
  rintro w rfl
  rw [entering]
  cases ask w.session with
  | ok h s =>
    refine ⟨rfl, ?_⟩
    rintro _ _ ⟨⟩
    rfl
  | error halt s => exact ⟨rfl, by rintro _ _ ⟨⟩⟩

/-- What is pushed before an execution is entered is popped behind it. -/
theorem erases_below (hwalk : Erases (x :: chain) α walk run) :
    Erases chain α (below x walk) run := by
  rintro w rfl
  obtain ⟨hrun, hchain⟩ := hwalk (w.push x) rfl
  rw [below, show run w.session = run (w.push x).session from rfl, ← hrun]
  cases h : walk (w.push x) with
  | ok a w' =>
    refine ⟨rfl, ?_⟩
    rintro _ _ ⟨⟩
    show w'.ancestors.tail = _
    rw [hchain a w' h, List.tail_cons]
  | error halt w' => cases halt <;> exact ⟨rfl, by rintro _ _ ⟨⟩⟩

theorem erases_leaving (hwalk : Erases chain α walk run) :
    Erases chain α (leaving x walk) run := by
  intro w hw
  obtain ⟨hrun, hchain⟩ := hwalk w hw
  rw [leaving, ← hrun]
  cases h : walk w with
  | ok a w' =>
    refine ⟨rfl, ?_⟩
    rintro _ _ ⟨⟩
    exact hchain a w' h
  | error halt w' => cases halt <;> exact ⟨rfl, by rintro _ _ ⟨⟩⟩

/-- With handlers that keep no state, a walk applies a history as an expansion does. -/
theorem applyAll_dispatcher (visit : Execution → Walk σ TaskGroup) (h : History)
    (p : Projection) :
    applyAll registry.dispatcher visit h p = Expansion.applyAll registry visit h p := by
  induction h generalizing p with
  | nil => rfl
  | cons e rest ih =>
    have hhandle : (handle registry.dispatcher e p : Walk σ _) = pure (registry.dispatch e p) :=
      rfl
    rw [applyAll, Expansion.applyAll, hhandle, pure_bind]
    cases registry.dispatch e p with
    | error cause q => rfl
    | ok outcome q =>
      cases outcome with
      | applied => exact ih q
      | expandChild task child =>
        refine bind_congr fun g => ?_
        cases Projection.attachChild e.id task g q with
        | error cause q' => rfl
        | ok _ q' => exact ih q'

/-- With the handlers of a registry, an expansion along the shared list leads to what the
expansion with a chain for each call leads to. -/
theorem erases_visit {levels : Nat} (hlevels : levels + chain.length = limits.maxDepth + 1)
    (x : Execution) :
    Erases chain _ (visit registry.dispatcher limits fetch levels x)
      (Expansion.expand registry limits fetch levels chain x) := by
  induction levels generalizing chain x with
  | zero =>
    rw [visit, Expansion.expand]
    exact erases_guarded_of_refusal (Limits.refusal?_of_tooDeep (by omega))
  | succ levels ih =>
    have hdepth : chain.length ≤ limits.maxDepth := by omega
    have hrefusal := Limits.refusal?_of_le (x := x) hdepth
    rw [visit, Expansion.expand]
    split
    · rename_i hcycle
      rw [if_pos hcycle] at hrefusal
      exact erases_guarded_of_refusal hrefusal
    · rename_i hcycle
      rw [if_neg hcycle] at hrefusal
      refine erases_guarded hrefusal (erases_leaving ?_)
      refine erases_bind (erases_entering _) fun events => erases_bind (erases_below ?_) fun p => ?_
      · rw [applyAll_dispatcher]
        refine (erases_congruence _).applyAll (fun c => ih ?_ c) events _
        rw [List.length_cons]
        omega
      · exact (erases_congruence chain).pure _

end Walk

end HistoryTree
