import HistoryTree.Proofs.Expansion.Trace

/-!
# Projections that succeed

A projection succeeds only if all histories that it asks for are delivered.  What becomes of a wait
that is in vain does not matter then: `Source.Yields` lets the history of an execution stall as
well, and to a projection that succeeds such an execution is one that is refused
(`Session.project_eq_ok_iff`).
-/

namespace HistoryTree

/-- From a state on, waiting for the history of an execution leads to the same whatever was asked
for before. -/
def Source.Yields {σ : Type} (source : Source σ) (s : σ) (drained : Execution → Drained) : Prop :=
  ∀ asked x, (source x (source.after s asked)).1.drain = drained x

/-- A source yields what it was said to yield. -/
theorem Source.Yields.drain {σ : Type} {source : Source σ} {s : σ} {drained : Execution → Drained}
    (h : source.Yields s drained) (x : Execution) : (source x s).1.drain = drained x :=
  h [] x

/-- A source yields the same after any requests. -/
theorem Source.Yields.after {σ : Type} {source : Source σ} {s : σ} {drained : Execution → Drained}
    (h : source.Yields s drained) (xs : List Execution) :
    source.Yields (source.after s xs) drained := by
  intro asked x
  rw [← after_append]
  exact h (xs ++ asked) x

/-- To serve answers is to yield them. -/
theorem Source.Serves.yields {σ : Type} {source : Source σ} {s : σ}
    {answers : Execution → Except SourceError History} (h : source.Serves s answers) :
    source.Yields s fun x => .ofAnswer (answers x) :=
  h

/-- The history that a wait leads to, if it does; a wait in vain is like a refusal. -/
def Drained.answer (x : Execution) : Drained → Except SourceError History
  | .history h => .ok h
  | .failed e => .error e
  | .stalled | .cancelling => .error (.timeout x)

/-- The answers of a source, a wait in vain being a refusal. -/
def answersOf (drained : Execution → Drained) (x : Execution) : Except SourceError History :=
  (drained x).answer x

/-- An answer is a history exactly if one is yielded. -/
theorem answersOf_eq_ok_iff {drained : Execution → Drained} {x : Execution} {h : History} :
    answersOf drained x = .ok h ↔ drained x = .history h := by
  rw [answersOf]
  cases drained x <;> simp [Drained.answer]

theorem answersOf_of_ne {drained drained' : Execution → Drained} {x : Execution}
    (hrest : ∀ y ≠ x, drained' y = drained y) :
    ∀ y ≠ x, answersOf drained' y = answersOf drained y := by
  intro y hne
  rw [answersOf, hrest y hne, answersOf]

namespace Session

variable {σ α β : Type} {source : Source σ} {drained : Execution → Drained}
  {registry : Registry} {limits : Limits} {s s' : Session σ} {x : Execution}

/-- A computation succeeds exactly as a trace does wherever the source yields the same. -/
def Achieves (source : Source σ) (drained : Execution → Drained) (α : Type) (r : Run σ α)
    (t : Trace α) : Prop :=
  ∀ s, source.Yields s.source drained → ∀ a s',
    r s = .ok a s' ↔ t.result = .ok a ∧ s' = s.afterAsking source t.asked

theorem achieves_bind {r : Run σ α} {t : Trace α} {f : α → Run σ β} {g : α → Trace β}
    (hr : Achieves source drained α r t) (hf : ∀ a, Achieves source drained β (f a) (g a)) :
    Achieves source drained β (r >>= f) (t >>= g) := by
  intro s hs b s'
  show EStateM.bind r f s = .ok b s' ↔ _
  rw [EStateM.bind]
  cases ht : t.result with
  | error halt =>
    rw [Trace.bind_of_error ht]
    cases h : r s with
    | ok a s₁ =>
      have hok := ((hr s hs a s₁).1 h).1
      rw [ht] at hok
      cases hok
    | error halt' s₁ => simp
  | ok a =>
    have hok : r s = .ok a (s.afterAsking source t.asked) := (hr s hs a _).2 ⟨ht, rfl⟩
    rw [Trace.bind_of_ok ht, hok]
    show f a (s.afterAsking source t.asked) = .ok b s' ↔ _
    rw [hf a _ (hs.after t.asked) b s', afterAsking_append]

/-- A session achieves a sequence of traces if it achieves each of them. -/
theorem achieves_congruence (source : Source σ) (drained : Execution → Drained) :
    Expansion.Congruence (Achieves source drained) where
  pure a s _ b s' := by
    show EStateM.Result.ok a s = .ok b s' ↔ _
    simp [afterAsking_nil, eq_comm]
  throw halt s _ b s' := by
    show EStateM.Result.error halt s = .ok b s' ↔ _
    simp
  bind := achieves_bind

theorem wait_ne_ok (limits : Limits) (watching : Bool) (x : Execution) (s : Session σ)
    (h : History) (s' : Session σ) : wait limits watching x s ≠ .ok h s' := by
  rw [wait]
  split
  · exact nofun
  · exact nofun

theorem achieves_fetch (watching : Bool) (x : Execution) :
    Achieves source drained _ (fetch source limits watching x)
      (Trace.ask (answersOf drained) x) := by
  intro s hs h s'
  have hdrain := hs.drain x
  have hafter : s.afterAsking source [x]
      = { s with source := (source x s.source).2, fetched := s.fetched ++ [x] } := rfl
  rw [fetch, Trace.ask, answersOf]
  cases hsource : source x s.source with
  | mk reading next =>
    rw [hsource] at hdrain hafter
    cases hx : drained x with
    | history h' => simp [hdrain, hx, Drained.answer, hafter, eq_comm]
    | failed e => simp [hdrain, hx, Drained.answer]
    | stalled => simp [hdrain, hx, Drained.answer, wait_ne_ok]
    | cancelling => simp [hdrain, hx, Drained.answer, wait_ne_ok]

/-- A projection succeeds exactly as the expansion of the answers does. -/
theorem project_eq_ok_iff (hs : source.Yields s.source drained) {g : TaskGroup} :
    project source registry limits x s = .ok g s' ↔
      (Expansion.below registry limits (Trace.ask (answersOf drained)) [] x).result = .ok g ∧
        s' = s.afterAsking source
          (Expansion.below registry limits (Trace.ask (answersOf drained)) [] x).asked :=
  (achieves_congruence source drained).expand (achieves_fetch false) _ [] x s hs g s'

/-- A session succeeds exactly with the result of the trace, also where some waits do not end. -/
theorem exists_project_eq_ok_iff (hs : source.Yields s.source drained) {g : TaskGroup} :
    (∃ t, project source registry limits x s = .ok g t) ↔
      (Expansion.below registry limits (Trace.ask (answersOf drained)) [] x).result = .ok g := by
  simp only [project_eq_ok_iff hs]
  constructor
  · rintro ⟨t, hg, -⟩
    exact hg
  · intro hg
    exact ⟨_, hg, rfl⟩

end Session

end HistoryTree
