import HistoryTree.Source.Directory
import HistoryTree.Source.Memory
import HistoryTree.Source.Script

/-!
# Sources with fixed answers

A source may change with every request.  `Source.Serves` says that it does not matter:
whatever was asked for before, each execution has one history, or one error for which its
history is not delivered.  Histories in memory, in a tree of files, and in a script whose
streams end or break are served in this sense (`Memory.serves`, `Directory.serves`,
`Script.serves`).
-/

namespace HistoryTree

/-- What waiting for the end of a history leads to when there is an answer. -/
def Drained.ofAnswer : Except SourceError History → Drained
  | .ok h => .history h
  | .error e => .failed e

namespace Source

variable {σ : Type} {source : Source σ} {s : σ}
  {answers : Execution → Except SourceError History}

/-- The state of a source after requests in the given order. -/
def after (source : Source σ) (s : σ) : List Execution → σ
  | [] => s
  | x :: rest => after source (source x s).2 rest

theorem after_append (xs ys : List Execution) :
    source.after s (xs ++ ys) = source.after (source.after s xs) ys := by
  induction xs generalizing s with
  | nil => rfl
  | cons x xs ih => exact ih

/-- From a state on, a source answers every request for an execution alike, with a whole
history or with an error. -/
def Serves (source : Source σ) (s : σ) (answers : Execution → Except SourceError History) : Prop :=
  ∀ asked x, (source x (source.after s asked)).1.drain = .ofAnswer (answers x)

theorem Serves.drain (h : source.Serves s answers) (x : Execution) :
    (source x s).1.drain = .ofAnswer (answers x) :=
  h [] x

/-- A source serves the same answers after any requests. -/
theorem Serves.after (h : source.Serves s answers) (xs : List Execution) :
    source.Serves (source.after s xs) answers := by
  intro asked x
  rw [← after_append]
  exact h (xs ++ asked) x

/-- A source serves its answers as long as it stays in states in which it gives them. -/
theorem serves_of_invariant (good : σ → Prop) (keep : ∀ x s, good s → good (source x s).2)
    (drain : ∀ x s, good s → (source x s).1.drain = .ofAnswer (answers x)) (hs : good s) :
    source.Serves s answers := by
  intro asked x
  induction asked generalizing s with
  | nil => exact drain x s hs
  | cons y ys ih => exact ih (keep y s hs)

end Source

/-! ## Histories in memory -/

/-- The answers that histories in memory give. -/
def Memory.answers (m : Memory) (x : Execution) : Except SourceError History :=
  match m.history? x with
  | some h => .ok h
  | none => .error (.notFound x)

/-- A request changes the count of requests only. -/
theorem Memory.serves (m : Memory) : Source.Serves Memory.fetch m m.answers := by
  refine Source.serves_of_invariant (fun n => n.histories = m.histories) ?keep ?drain rfl
  case keep =>
    intro x n hn
    exact hn
  case drain =>
    intro x n hn
    have hx : n.history? x = m.history? x := by rw [history?, history?, hn]
    simp only [fetch, answers, hx]
    cases m.history? x <;> rfl

/-! ## Histories in a tree of files -/

/-- The answer that reading a file gives. -/
def FileRead.answer (x : Execution) : FileRead → Except SourceError History
  | .missing => .error (.notFound x)
  | .failed fault => .error (.file x fault)
  | .document d =>
    match Json.Reader.decode History.reader d with
    | .ok h => .ok h
    | .error f => .error (.undecodable f)

/-- The answers of the files below a root. -/
def Directory.answers (files : FileTree) (root : String) (x : Execution) :
    Except SourceError History :=
  match historyPath root x with
  | .error e => .error e
  | .ok path => (files.read path).answer x

/-- Waiting for what a file leads to brings the answer of the file. -/
theorem Directory.drain_reading (x : Execution) (r : FileRead) :
    (reading x r).drain = .ofAnswer (r.answer x) := by
  cases r with
  | missing => rfl
  | failed fault => rfl
  | document d =>
    rw [reading, FileRead.answer]
    cases Json.Reader.decode History.reader d <;> rfl

/-- Files stay as they are while histories are read. -/
theorem Directory.serves {σ : Type} (files : FileTree) (root : String) (s : σ) :
    Source.Serves (fetch (m := StateM σ) (fun path => pure (files.read path)) root) s
      (answers files root) := by
  refine Source.serves_of_invariant (fun _ => True) (fun _ _ _ => trivial) ?_ trivial
  intro x s _
  rw [fetch, answers]
  cases historyPath root x with
  | error e => rfl
  | ok path => exact drain_reading x (files.read path)

/-! ## Scripted histories -/

/-- The answers of a script in which every stream ends or breaks. -/
def Script.answers (s : Script) (x : Execution) : Except SourceError History :=
  match s.lookup x with
  | some (h, .finish) => .ok h
  | some (_, .breakOff cause _) => .error cause
  | _ => .error (.notFound x)

/-- What arrived before a stream breaks does not count. -/
theorem Script.serves {s : Script}
    (hs : ∀ entry ∈ s, entry.2.2 = .finish ∨ ∃ cause hne, entry.2.2 = .breakOff cause hne) :
    Source.Serves s.fetch () s.answers := by
  refine Source.serves_of_invariant (fun _ => True) (fun _ _ _ => trivial) ?_ trivial
  intro x _ _
  show (s.reading x).drain = _
  rw [reading, answers]
  cases hx : s.lookup x with
  | none => rfl
  | some entry =>
    obtain ⟨h, cue⟩ := entry
    obtain ⟨before, after, rfl, -⟩ := List.lookup_eq_some_iff.1 hx
    rcases hs (x, h, cue) (by simp) with hc | ⟨cause, hne, hc⟩ <;> cases hc <;> rfl

end HistoryTree
