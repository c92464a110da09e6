import HistoryTree.Expansion
import HistoryTree.Proofs.Source.Serving

/-!
# Expansions as values

With a source of fixed answers, what an expansion leads to is a value: its result, and the
executions it asks for on the way.  A `Trace` is such a value, and computing with traces is
computing with expansions (`Session.below_eq_replay`).

* `Expansion.Congruence`: a relation between computations that an expansion carries from
  single requests to whole executions (`Congruence.applyAll`, `Congruence.expand`).
* `Expansion.below`: the expansion below any chain of ancestors, with the guards in front.
* `Session.replay`: the computation within a session that leads to what a trace says.
-/

namespace HistoryTree

/-! ## Relations that expansions respect -/

namespace Expansion

variable {m n : Type → Type} [Monad m] [MonadExceptOf Halt m] [Monad n] [MonadExceptOf Halt n]

/-- A relation between computations that holds between results, between failures and between
sequences of related computations. -/
structure Congruence (R : (α : Type) → m α → n α → Prop) : Prop where
  pure {α : Type} (a : α) : R α (pure a) (pure a)
  throw {α : Type} (h : Halt) : R α (throw h) (throw h)
  bind {α β : Type} {a : m α} {b : n α} {f : α → m β} {g : α → n β} :
    R α a b → (∀ v, R β (f v) (g v)) → R β (a >>= f) (b >>= g)

variable {R : (α : Type) → m α → n α → Prop} {registry : Registry} {limits : Limits}

/-- Related ways to project children lead to related ways to apply a history. -/
theorem Congruence.applyAll (hR : Congruence R) {expand : Execution → m TaskGroup}
    {expand' : Execution → n TaskGroup} (hexpand : ∀ c, R _ (expand c) (expand' c)) (h : History)
    (p : Projection) :
    R _ (Expansion.applyAll registry expand h p) (Expansion.applyAll registry expand' h p) := by
  induction h generalizing p with
  | nil => exact hR.pure p
  | cons e rest ih =>
    rw [Expansion.applyAll, Expansion.applyAll]
    split
    · exact hR.throw _
    · exact ih _
    · refine hR.bind (hexpand _) fun g => ?_
      split
      · exact hR.throw _
      · exact ih _

/-- Related ways to fetch lead to related expansions. -/
theorem Congruence.expand (hR : Congruence R) {fetch : Execution → m History}
    {fetch' : Execution → n History} (hfetch : ∀ x, R _ (fetch x) (fetch' x)) (levels : Nat)
    (chain : List Execution) (x : Execution) :
    R _ (Expansion.expand registry limits fetch levels chain x)
      (Expansion.expand registry limits fetch' levels chain x) := by
  induction levels generalizing chain x with
  | zero => exact hR.throw _
  | succ levels ih =>
    have hrest : R _
        (do
          let events ← fetch x
          let p ← Expansion.applyAll registry
            (Expansion.expand registry limits fetch levels (x :: chain)) events (.start x)
          return p.group)
        (do
          let events ← fetch' x
          let p ← Expansion.applyAll registry
            (Expansion.expand registry limits fetch' levels (x :: chain)) events (.start x)
          return p.group) := by
      refine hR.bind (hfetch x) fun events => hR.bind ?_ fun p => hR.pure _
      exact hR.applyAll (fun c => ih (x :: chain) c) events _
    rw [Expansion.expand, Expansion.expand]
    split
    · exact hR.bind (hR.throw _) fun _ => hrest
    · exact hrest

/-- Handlers that apply a history as others apply what a function makes of it expand as the others do
with this function behind what is fetched. -/
theorem expand_map [LawfulMonad m] {registry' : Registry} {f : History → History}
    (hf : ∀ (project : Execution → m TaskGroup) (h : History) (p : Projection),
      Expansion.applyAll registry' project h p = Expansion.applyAll registry project (f h) p)
    (fetch : Execution → m History) (levels : Nat) (chain : List Execution) (x : Execution) :
    Expansion.expand registry' limits fetch levels chain x
      = Expansion.expand registry limits (fun y => f <$> fetch y) levels chain x := by
  induction levels generalizing chain x with
  | zero => rfl
  | succ levels ih =>
    rw [Expansion.expand, Expansion.expand]
    simp only [hf, bind_map_left, funext (ih (x :: chain))]

/-- Projects an execution below a chain of ancestors, with the levels that the chain leaves. -/
def below (registry : Registry) (limits : Limits) (fetch : Execution → m History)
    (chain : List Execution) (x : Execution) : m TaskGroup :=
  Expansion.expand registry limits fetch (limits.maxDepth + 1 - chain.length) chain x

theorem project_eq_below (fetch : Execution → m History) (x : Execution) :
    project registry limits fetch x = below registry limits fetch [] x :=
  rfl

end Expansion

/-! ## Traces -/

/-- What a computation leads to, with the executions whose histories it asks for, in order. -/
structure Trace (α : Type) where
  result : Except Halt α
  asked : List Execution

namespace Trace

variable {α β : Type} {t : Trace α} {f : α → Trace β} {a : α} {b : β} {halt : Halt}

/-- Goes on with the result, if there is one. -/
def bind (t : Trace α) (f : α → Trace β) : Trace β :=
  match t.result with
  | .ok a => ⟨(f a).result, t.asked ++ (f a).asked⟩
  | .error halt => ⟨.error halt, t.asked⟩

/-- Goes on with the failure, if there is one. -/
def recover (t : Trace α) (f : Halt → Trace α) : Trace α :=
  match t.result with
  | .ok _ => t
  | .error halt => ⟨(f halt).result, t.asked ++ (f halt).asked⟩

instance : Monad Trace where
  pure a := ⟨.ok a, []⟩
  bind := bind

instance : MonadExceptOf Halt Trace where
  throw halt := ⟨.error halt, []⟩
  tryCatch := recover

@[simp] theorem result_pure (a : α) : (pure a : Trace α).result = .ok a := rfl

@[simp] theorem asked_pure (a : α) : (pure a : Trace α).asked = [] := rfl

@[simp] theorem result_throw (halt : Halt) : (throw halt : Trace α).result = .error halt := rfl

@[simp] theorem asked_throw (halt : Halt) : (throw halt : Trace α).asked = [] := rfl

/-- A computation behind a result asks for what it asks for, behind what was asked for. -/
theorem bind_of_ok (h : t.result = .ok a) :
    t >>= f = ⟨(f a).result, t.asked ++ (f a).asked⟩ := by
  show bind t f = _
  rw [bind, h]

theorem bind_of_error (h : t.result = .error halt) : t >>= f = ⟨.error halt, t.asked⟩ := by
  show bind t f = _
  rw [bind, h]

theorem result_bind_of_ok (h : t.result = .ok a) : (t >>= f).result = (f a).result := by
  rw [bind_of_ok h]

theorem result_bind_of_error (h : t.result = .error halt) : (t >>= f).result = .error halt := by
  rw [bind_of_error h]

/-- A sequence has a result exactly if both of its parts do. -/
theorem result_bind_eq_ok_iff :
    (t >>= f).result = .ok b ↔ ∃ a, t.result = .ok a ∧ (f a).result = .ok b := by
  cases h : t.result with
  | error halt => simp [result_bind_of_error h]
  | ok a => simp [result_bind_of_ok h]

/-- A sequence fails with its first part, or behind it. -/
theorem result_bind_eq_error_iff :
    (t >>= f).result = .error halt ↔
      t.result = .error halt ∨ ∃ a, t.result = .ok a ∧ (f a).result = .error halt := by
  cases h : t.result with
  | error halt' => simp [result_bind_of_error h]
  | ok a => simp [result_bind_of_ok h]

theorem bind_pure_id (t : Trace α) : t >>= pure = t := by
  cases h : t.result with
  | error halt => rw [bind_of_error h, ← h]
  | ok a => rw [bind_of_ok h, result_pure, asked_pure, List.append_nil, ← h]

theorem bind_assoc' {γ : Type} (t : Trace α) (f : α → Trace β) (g : β → Trace γ) :
    t >>= f >>= g = t >>= fun a => f a >>= g := by
  cases h : t.result with
  | error halt =>
    rw [bind_of_error h, bind_of_error h]
    rfl
  | ok a =>
    rw [bind_of_ok h, bind_of_ok h]
    cases h' : (f a).result with
    | error halt => rw [bind_of_error h', bind_of_error rfl]
    | ok b => rw [bind_of_ok h', bind_of_ok rfl, List.append_assoc]

instance : LawfulMonad Trace :=
  LawfulMonad.mk' Trace bind_pure_id (fun _ _ => rfl) bind_assoc'

/-- Asks for the history of an execution. -/
def ask (answers : Execution → Except SourceError History) (x : Execution) : Trace History :=
  match answers x with
  | .ok h => ⟨.ok h, [x]⟩
  | .error e => ⟨.error (.failed (.source e)), [x]⟩

theorem result_ask_eq_ok_iff {answers : Execution → Except SourceError History} {x : Execution}
    {h : History} : (ask answers x).result = .ok h ↔ answers x = .ok h := by
  rw [ask]
  cases answers x <;> simp

theorem result_ask_eq_error_iff {answers : Execution → Except SourceError History} {x : Execution} :
    (ask answers x).result = .error halt ↔ ∃ e, answers x = .error e ∧ halt = .failed (.source e) := by
  rw [ask]
  cases answers x <;> simp [eq_comm]

end Trace

/-! ## Sessions replay traces -/

/-- What a computation leads to, wherever it stops. -/
def resultOf {ε τ α : Type} : EStateM.Result ε τ α → Except ε α
  | .ok a _ => .ok a
  | .error e _ => .error e

/-- Where a computation stops. -/
def stateAfter {ε τ α : Type} : EStateM.Result ε τ α → τ
  | .ok _ w => w
  | .error _ w => w

namespace Session

variable {σ α β : Type} {source : Source σ} {answers : Execution → Except SourceError History}
  {registry : Registry} {limits : Limits}

/-- The session after requests for the histories of executions. -/
def afterAsking (source : Source σ) (s : Session σ) (xs : List Execution) : Session σ :=
  { s with source := source.after s.source xs, fetched := s.fetched ++ xs }

theorem afterAsking_nil (s : Session σ) : s.afterAsking source [] = s := by
  simp [afterAsking, Source.after]

/-- Requests one after the other add up. -/
theorem afterAsking_append (s : Session σ) (xs ys : List Execution) :
    s.afterAsking source (xs ++ ys) = (s.afterAsking source xs).afterAsking source ys := by
  simp [afterAsking, Source.after_append]

/-- The computation within a session that leads to what a trace says. -/
def replay (source : Source σ) (t : Trace α) : Run σ α := fun s =>
  match t.result with
  | .ok a => .ok a (s.afterAsking source t.asked)
  | .error halt => .error halt (s.afterAsking source t.asked)

theorem replay_of_ok {t : Trace α} {a : α} {s : Session σ} (h : t.result = .ok a) :
    replay source t s = .ok a (s.afterAsking source t.asked) := by
  rw [replay, h]

theorem replay_of_error {t : Trace α} {halt : Halt} {s : Session σ} (h : t.result = .error halt) :
    replay source t s = .error halt (s.afterAsking source t.asked) := by
  rw [replay, h]

theorem replay_eq_ok_iff {t : Trace α} {a : α} {s s' : Session σ} :
    replay source t s = .ok a s' ↔ t.result = .ok a ∧ s' = s.afterAsking source t.asked := by
  cases h : t.result with
  | ok b => simp [replay_of_ok h, eq_comm]
  | error halt => simp [replay_of_error h]

theorem replay_eq_error_iff {t : Trace α} {halt : Halt} {s s' : Session σ} :
    replay source t s = .error halt s' ↔
      t.result = .error halt ∧ s' = s.afterAsking source t.asked := by
  cases h : t.result with
  | ok b => simp [replay_of_ok h]
  | error halt' => simp [replay_of_error h, eq_comm]

/-- A computation leads to what a trace says wherever the source serves the answers. -/
def Follows (source : Source σ) (answers : Execution → Except SourceError History) (α : Type)
    (r : Run σ α) (t : Trace α) : Prop :=
  ∀ s, source.Serves s.source answers → r s = replay source t s

theorem follows_bind {r : Run σ α} {t : Trace α} {f : α → Run σ β} {g : α → Trace β}
    (hr : Follows source answers α r t) (hf : ∀ a, Follows source answers β (f a) (g a)) :
    Follows source answers β (r >>= f) (t >>= g) := by
  intro s hs
  show EStateM.bind r f s = _
  rw [EStateM.bind, hr s hs]
  cases ht : t.result with
  | error halt => rw [Trace.bind_of_error ht, replay_of_error ht, replay_of_error rfl]
  | ok a =>
    rw [Trace.bind_of_ok ht, replay_of_ok ht]
    show f a (s.afterAsking source t.asked) = _
    rw [hf a _ (hs.after t.asked), replay, replay, afterAsking_append]

/-- A session that follows the parts of a trace follows the trace. -/
theorem follows_congruence (source : Source σ) (answers : Execution → Except SourceError History) :
    Expansion.Congruence (Follows source answers) where
  pure a s _ := by
    rw [replay_of_ok (Trace.result_pure a), Trace.asked_pure, afterAsking_nil]
    rfl
  throw halt s _ := by
    rw [replay_of_error (Trace.result_throw halt), Trace.asked_throw, afterAsking_nil]
    rfl
  bind := follows_bind

/-- A session that fetches from a source follows the trace that asks it. -/
theorem follows_fetch (watching : Bool) (x : Execution) :
    Follows source answers _ (fetch source limits watching x) (Trace.ask answers x) := by
  intro s hs
  have hdrain := hs.drain x
  have hafter : s.afterAsking source [x]
      = { s with source := (source x s.source).2, fetched := s.fetched ++ [x] } := rfl
  rw [fetch, Trace.ask]
  cases hsource : source x s.source with
  | mk reading next =>
    rw [hsource] at hdrain hafter
    cases hx : answers x with
    | ok h =>
      simp only [hx, Drained.ofAnswer] at hdrain
      simp only [hdrain]
      rw [replay_of_ok rfl, hafter]
    | error e =>
      simp only [hx, Drained.ofAnswer] at hdrain
      simp only [hdrain]
      rw [replay_of_error rfl, hafter]

/-- Where the source serves fixed answers, a session that projects an execution below a chain
of ancestors replays the trace of that expansion. -/
theorem below_eq_replay {s : Session σ} (hs : source.Serves s.source answers) (watching : Bool)
    (chain : List Execution) (x : Execution) :
    Expansion.below registry limits (fetch source limits watching) chain x s
      = replay source (Expansion.below registry limits (Trace.ask answers) chain x) s :=
  (follows_congruence source answers).expand (follows_fetch watching) _ chain x s hs

/-- A session that projects an execution succeeds exactly when the expansion does. -/
theorem exists_below_eq_ok_iff {s : Session σ} (hs : source.Serves s.source answers)
    (watching : Bool) (chain : List Execution) (x : Execution) :
    (∃ g s', Expansion.below registry limits (fetch source limits watching) chain x s = .ok g s') ↔
      ∃ g, (Expansion.below registry limits (Trace.ask answers) chain x).result = .ok g := by
  simp only [below_eq_replay hs, replay_eq_ok_iff]
  constructor
  · rintro ⟨g, s', h, -⟩
    exact ⟨g, h⟩
  · rintro ⟨g, h⟩
    exact ⟨g, _, h, rfl⟩

/-- A session that projects an execution fails exactly as the expansion does. -/
theorem exists_below_eq_error_iff {s : Session σ} (hs : source.Serves s.source answers)
    (watching : Bool) (chain : List Execution) (x : Execution) (halt : Halt) :
    (∃ s', Expansion.below registry limits (fetch source limits watching) chain x s
        = .error halt s') ↔
      (Expansion.below registry limits (Trace.ask answers) chain x).result = .error halt := by
  simp only [below_eq_replay hs, replay_eq_error_iff]
  constructor
  · rintro ⟨s', h, -⟩
    exact h
  · intro h
    exact ⟨_, h, rfl⟩

end Session

end HistoryTree
