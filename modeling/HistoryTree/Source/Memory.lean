import HistoryTree.Source.Reading

/-!
# Histories in memory
-/

namespace HistoryTree

/-- Histories in memory, with the number of requests answered so far. -/
structure Memory where
  histories : List (Execution × History)
  fetchCount : Nat
  deriving Repr

namespace Memory

/-- No histories. -/
def empty : Memory := ⟨[], 0⟩

/-- The history of an execution. -/
def history? (m : Memory) (x : Execution) : Option History := m.histories.lookup x

/-- Adds the history of an execution, in place of an earlier one. -/
def insert (m : Memory) (x : Execution) (h : History) : Memory :=
  { m with histories := (x, h) :: m.histories }

/-- Answers a request, and counts it. -/
def fetch : Source Memory := fun x m =>
  let reading := match m.history? x with
    | some h => Reading.whole h
    | none => .refused (.notFound x)
  (reading, { m with fetchCount := m.fetchCount + 1 })

theorem history?_insert (m : Memory) (x y : Execution) (h : History) :
    (m.insert x h).history? y = if y = x then some h else m.history? y := by
  by_cases e : y = x
  · simp [insert, history?, e]
  · simp [insert, history?, List.lookup_cons, beq_false_of_ne e, e]

end Memory

end HistoryTree
