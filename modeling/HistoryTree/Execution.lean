import HistoryTree.Text.Decimal
import HistoryTree.Text.Split

/-!
# Executions and event ids

An execution is named by a workflow id and the id of one of its runs; its text form is
`id/run`.  An event id is the position of an event in a history.  Main statement: a text
is a reference exactly when something stands on both sides of its last slash
(`Execution.parse?_eq_some_iff`).
-/

namespace HistoryTree

/-- The position of an event in one history; a task carries the id of the event that made it. -/
structure EventId where
  value : Int64
  deriving DecidableEq, Repr

/-- The id in decimal. -/
def EventId.text (i : EventId) : String := String.ofList (Text.decimalInt i.value.toInt)

/-- One run of a workflow execution. -/
structure Execution where
  id : String
  run : String
  deriving DecidableEq, Repr

namespace Execution

/-- The text form `id/run`. -/
def text (x : Execution) : String := x.id ++ "/" ++ x.run

/-- The execution that a text names: the last slash parts the id from the run, and neither
may be empty. -/
def parse? (s : String) : Option Execution :=
  match Text.splitLast? '/' s.toList with
  | some (a :: as, b :: bs) => some ⟨String.ofList (a :: as), String.ofList (b :: bs)⟩
  | _ => none

theorem toList_text (x : Execution) : x.text.toList = x.id.toList ++ '/' :: x.run.toList := by
  simp [text]

/-- A text names `x` exactly when it is the text form of `x`, both parts are there, and the
run holds no slash. -/
theorem parse?_eq_some_iff {s : String} {x : Execution} :
    parse? s = some x ↔ s = x.text ∧ x.id ≠ "" ∧ x.run ≠ "" ∧ '/' ∉ x.run.toList := by
  rw [parse?]
  constructor
  · intro h
    split at h
    · rename_i a as b bs hs
      obtain ⟨hs, hb⟩ := Text.splitLast?_eq_some_iff.1 hs
      obtain rfl : _ = x := Option.some.inj h
      refine ⟨?_, ?_, ?_, by simpa using hb⟩
      · rw [← String.toList_inj, toList_text]
        simpa using hs
      · simp [← String.toList_inj]
      · simp [← String.toList_inj]
    · exact absurd h (by simp)
  · rintro ⟨rfl, hid, hrun, hb⟩
    rw [Ne, ← String.toList_inj] at hid hrun
    rw [toList_text, Text.splitLast?_eq_some_iff.2 ⟨rfl, hb⟩]
    cases hi : x.id.toList with
    | nil => exact absurd hi (by simpa using hid)
    | cons a as =>
      cases hr : x.run.toList with
      | nil => exact absurd hr (by simpa using hrun)
      | cons b bs => simp [← hi, ← hr]

end Execution

end HistoryTree
