import HistoryTree.Text.Decimal
import HistoryTree.Text.Symbols

/-!
# Percent encoding

A character that may not stand in a part of a URL is spelled as its UTF-8 bytes, each a
percent sign and two hexadecimal digits.  Which characters these are depends on the part;
control characters and those beyond ASCII always are.  Form encoding, which is used for
parameters, keeps fewer characters and writes a space as a plus sign.
-/

namespace HistoryTree.Url

/-- The hexadecimal digit, in upper case, for a number below sixteen. -/
def hexDigit (n : Nat) : Char := if n < 10 then Text.digit n else Char.ofNat (55 + n)

/-- The number that a hexadecimal digit of either case stands for. -/
def hexValue? (c : Char) : Option Nat :=
  if Text.isDigit c then some (Text.digitValue c)
  else if 'a' ≤ c ∧ c ≤ 'f' then some (c.toNat - 87)
  else if 'A' ≤ c ∧ c ≤ 'F' then some (c.toNat - 55)
  else none

/-- A byte behind a percent sign. -/
def escape (b : UInt8) : List Char := ['%', hexDigit (b.toNat / 16), hexDigit (b.toNat % 16)]

/-! ## The characters to escape -/

/-- Control characters, and all characters beyond ASCII. -/
def isControl (c : Char) : Bool := c.toNat < 0x20 || 0x7F ≤ c.toNat

/-- The characters that are escaped in a path as it is given. -/
def escapedInPath (c : Char) : Bool :=
  isControl c || " \"<>\x60#?\x7b\x7d".toList.contains c

/-- The characters that are escaped in a text that becomes a single segment of a path; a
backslash separates segments in a special scheme only. -/
def escapedInSegment (special : Bool) (c : Char) : Bool :=
  escapedInPath c || c = '/' || c = '%' || (special && c = '\\')

/-- The characters that are escaped in a query. -/
def escapedInQuery (special : Bool) (c : Char) : Bool :=
  isControl c || " \"#<>".toList.contains c || (special && c = '\'')

/-- The characters that are escaped in a fragment. -/
def escapedInFragment (c : Char) : Bool := isControl c || " \"<>\x60".toList.contains c

/-- The text with the characters of a class escaped. -/
def percentEncode (escaped : Char → Bool) (s : List Char) : List Char :=
  s.flatMap fun c => if escaped c then (String.utf8EncodeChar c).flatMap escape else [c]

/-- The bytes of a text in which a percent sign with two digits stands for a byte. -/
def percentDecode : List Char → List UInt8
  | [] => []
  | '%' :: a :: b :: rest =>
    match hexValue? a, hexValue? b with
    | some x, some y => UInt8.ofNat (16 * x + y) :: percentDecode rest
    | _, _ => String.utf8EncodeChar '%' ++ percentDecode (a :: b :: rest)
  | c :: rest => String.utf8EncodeChar c ++ percentDecode rest

/-! ## Parameters -/

/-- The characters that form encoding keeps. -/
def keptInForm (b : UInt8) : Bool :=
  let c := Char.ofNat b.toNat
  b < 0x80 && (c.isAlphanum || "*-._".toList.contains c)

/-- A byte in form encoding. -/
def formByte (b : UInt8) : List Char :=
  if keptInForm b then [Char.ofNat b.toNat]
  else if b = 0x20 then ['+']
  else escape b

/-- A text in form encoding. -/
def formEncode (s : List Char) : List Char :=
  (s.flatMap String.utf8EncodeChar).flatMap formByte

/-- The bytes of a text in form encoding. -/
def formDecode (s : List Char) : List UInt8 :=
  percentDecode (s.map fun c => if c = '+' then ' ' else c)

/-! ## Laws -/

theorem hexValue?_hexDigit {n : Nat} (h : n < 16) : hexValue? (hexDigit n) = some n :=
  (show ∀ n < 16, hexValue? (hexDigit n) = some n by decide) n h

/-- An escaped byte reads back. -/
theorem percentDecode_escape (b : UInt8) (rest : List Char) :
    percentDecode (escape b ++ rest) = b :: percentDecode rest := by
  have hb : b.toNat < 256 := UInt8.toNat_lt b
  simp only [escape, List.cons_append, List.nil_append, percentDecode,
    hexValue?_hexDigit (show b.toNat / 16 < 16 by omega),
    hexValue?_hexDigit (show b.toNat % 16 < 16 by omega)]
  rw [show 16 * (b.toNat / 16) + b.toNat % 16 = b.toNat by omega, UInt8.ofNat_toNat]

end HistoryTree.Url
