import HistoryTree.Text.Split

/-!
# Labels

A task is labelled by the last part of its qualified type name: `acme/eats.ChargeOrder`
becomes `ChargeOrder`.  Only the segment after the last slash counts, and of it what
follows the last dot; where nothing would be left, the text stays whole.
-/

namespace HistoryTree

/-- The label of a type name, over its characters. -/
def labelChars (typeName : List Char) : List Char :=
  Text.lastPart '.' (Text.lastPart '/' typeName)

/-- The label of a type name. -/
def label (typeName : String) : String := String.ofList (labelChars typeName.toList)

theorem toList_label (typeName : String) :
    (label typeName).toList = labelChars typeName.toList := by
  rw [label, String.toList_ofList]

/-- The label of every timer. -/
def timerLabel : String := "timer.WaitForDeadline"

end HistoryTree
