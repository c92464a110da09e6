/-!
# Sets of characters

A set of characters is given by the ranges of its code points.
-/

namespace HistoryTree.Text

/-- A set of characters: ranges of code points, ends included, in increasing order. -/
abbrev CharSet := Array (Nat × Nat)

/-- Whether a character belongs to the set. -/
def CharSet.has (s : CharSet) (c : Char) : Bool :=
  s.any fun r => r.1 ≤ c.toNat && c.toNat ≤ r.2

end HistoryTree.Text
