import HistoryTree.Text.Decimal
import HistoryTree.Timestamp.Basic

/-!
# Writing time stamps

A time stamp is written as `yyyy-mm-ddThh:mm:ssZ`, with three, six or nine digits of
fraction where fewer would lose something.  A year before 0 or after 9999 has a sign, and
a leap second is written as the second behind.
-/

namespace HistoryTree.Timestamp

/-- A year with at least four digits. -/
def yearChars (y : Int) : List Char :=
  if 0 ≤ y ∧ y ≤ 9999 then Text.padded 4 y.natAbs
  else (if y < 0 then '-' else '+') :: Text.padded 4 y.natAbs

/-- The fraction of a second in as many groups of three digits as it needs. -/
def fractionChars (n : Nat) : List Char :=
  if n = 0 then []
  else if n % 1000000 = 0 then '.' :: Text.padded 3 (n / 1000000)
  else if n % 1000 = 0 then '.' :: Text.padded 6 (n / 1000)
  else '.' :: Text.padded 9 n

/-- The written form over its characters. -/
def chars (t : Timestamp) : List Char :=
  yearChars t.date.year ++ '-' :: Text.padded 2 t.date.month ++ '-' :: Text.padded 2 t.date.day
    ++ 'T' :: Text.padded 2 t.time.hour ++ ':' :: Text.padded 2 t.time.minute
    ++ ':' :: Text.padded 2 t.time.clockSecond ++ fractionChars t.time.clockNanosecond ++ ['Z']

/-- The written form. -/
def text (t : Timestamp) : String := String.ofList t.chars

end HistoryTree.Timestamp
