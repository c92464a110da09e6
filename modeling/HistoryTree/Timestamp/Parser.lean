import HistoryTree.Text.Blank
import HistoryTree.Text.Decimal
import HistoryTree.Timestamp.Basic

/-!
# Reading time stamps

The texts are `year-month-day`, a `T` or a blank, `hour:minute:second` with an optional
fraction, and the distance from UTC as `Z`, `UTC` or `+hh:mm`.  Blanks may stand before
each number and before most marks.  A year has up to four digits, or a sign and any
number of them; digits behind the ninth of a fraction are dropped.
-/

namespace HistoryTree.Timestamp

/-- Why a text is no time stamp. -/
inductive Error where
  | invalid | outOfRange | tooShort | tooLong | impossible
  deriving DecidableEq, Repr

/-- The text that reports an error. -/
def Error.message : Error → String
  | invalid => "input contains invalid characters"
  | outOfRange => "input is out of range"
  | tooShort => "premature end of input"
  | tooLong => "trailing input"
  | impossible => "no possible date and time matching input"

/-- A part of a time stamp read from the start of a text, and the rest of the text. -/
abbrev Part (α : Type) := Except Error (α × List Char)

/-! ## Numbers and marks -/

/-- Digits from the start of a text, at most `width` of them. -/
def spanDigits : (width : Nat) → List Char → List Char × List Char
  | 0, s => ([], s)
  | _, [] => ([], [])
  | width + 1, c :: rest =>
    if Text.isDigit c then
      let (ds, r) := spanDigits width rest
      (c :: ds, r)
    else ([], c :: rest)

/-- A number of one to `width` digits, below `2 ^ 63`. -/
def number (width : Nat) (s : List Char) : Part Nat :=
  match spanDigits width s with
  | ([], []) => .error .tooShort
  | ([], _ :: _) => .error .invalid
  | (ds, rest) => if Text.valueOf ds < UInt64.size / 2 then .ok (Text.valueOf ds, rest)
    else .error .outOfRange

/-- A number in a range, after blanks. -/
def ranged (width low high : Nat) (s : List Char) : Part Nat :=
  match number width (Text.trimStart s) with
  | .error e => .error e
  | .ok (n, rest) => if low ≤ n ∧ n ≤ high then .ok (n, rest) else .error .outOfRange

/-- A number with a sign, within 32 bits. -/
def signed (sign : Int) (r : Part Nat) : Part Int :=
  match r with
  | .error e => .error e
  | .ok (n, rest) =>
    let y := sign * n
    if Int32.minValue.toInt ≤ y ∧ y ≤ Int32.maxValue.toInt then .ok (y, rest)
    else .error .outOfRange

/-- A year: up to four digits, or a sign and any number of digits. -/
def year (s : List Char) : Part Int :=
  match Text.trimStart s with
  | '-' :: rest => signed (-1) (number rest.length rest)
  | '+' :: rest => signed 1 (number rest.length rest)
  | rest => signed 1 (number 4 rest)

/-- A mark, after blanks. -/
def mark (c : Char) (s : List Char) : Except Error (List Char) :=
  match Text.trimStart s with
  | [] => .error .tooShort
  | x :: rest => if x = c then .ok rest else .error .invalid

/-- The mark between date and time. -/
def separator : List Char → Except Error (List Char)
  | [] => .error .tooShort
  | c :: rest => if c = 't' ∨ c = 'T' ∨ c = ' ' then .ok rest else .error .invalid

/-- The fraction of a second in nanoseconds; zero if no point follows. -/
def fraction : List Char → Part Nat
  | '.' :: s =>
    match spanDigits 9 s with
    | ([], []) => .error .tooShort
    | ([], _ :: _) => .error .invalid
    | (ds, rest) =>
      .ok (Text.valueOf ds * Nat.pow 10 (9 - ds.length), rest.dropWhile Text.isDigit)
  | s => .ok (0, s)

/-- Two digits; a text of fewer than two bytes is too short. -/
def twoDigits : List Char → Part Nat
  | a :: b :: rest =>
    if Text.isDigit a ∧ Text.isDigit b then
      .ok (10 * Text.digitValue a + Text.digitValue b, rest)
    else .error .invalid
  | [a] => .error (if a.utf8Size < 2 then .tooShort else .invalid)
  | [] => .error .tooShort

/-- A distance `hh:mm`, or without the colon, in minutes. -/
def hoursMinutes (s : List Char) : Part Nat :=
  match twoDigits s with
  | .error e => .error e
  | .ok (hours, rest) =>
    match twoDigits (rest.dropWhile fun c => c = ':' || Text.isBlank c) with
    | .error e => .error e
    | .ok (minutes, rest) =>
      if minutes < 60 then .ok (60 * hours + minutes, rest) else .error .outOfRange

/-- The distance from UTC in minutes. -/
def offset (s : List Char) : Part Int :=
  let signed (sign : Int) (rest : List Char) : Part Int :=
    (hoursMinutes rest).map fun (n, r) => (sign * n, r)
  let numeric : List Char → Part Int
    | [] => .error .tooShort
    | c :: rest =>
      if c = 'Z' ∨ c = 'z' then .ok (0, rest)
      else if c = '+' then signed 1 rest
      else if c = '-' ∨ c = '\u2212' then signed (-1) rest
      else .error .invalid
  match s with
  | a :: b :: c :: rest =>
    if a.toUpper = 'U' ∧ b.toUpper = 'T' ∧ c.toUpper = 'C' then .ok (0, rest) else numeric s
  | s => numeric s

/-! ## The whole text -/

/-- The instant that a date, a time and a distance from UTC in minutes name. -/
def ofParts (date : Option Date) (time : Option Time) (minutes : Int) : Except Error Timestamp :=
  match date, time with
  | some date, some time =>
    if minutes.natAbs < 1440 then
      match ofLocal? date time minutes with
      | some t => .ok t
      | none => .error .impossible
    else .error .outOfRange
  | _, _ => .error .outOfRange

/-- The time stamp that a text names. -/
def parseChars (s : List Char) : Except Error Timestamp := do
  let (y, s) ← year s
  let s ← mark '-' s
  let (m, s) ← ranged 2 1 12 s
  let s ← mark '-' s
  let (d, s) ← ranged 2 1 31 s
  let s ← separator s
  let (hour, s) ← ranged 2 0 23 s
  let s ← mark ':' s
  let (minute, s) ← ranged 2 0 59 s
  let s ← mark ':' s
  let (second, s) ← ranged 2 0 60 s
  let (nanosecond, s) ← fraction s
  let (minutes, s) ← offset (Text.trimStart s)
  if Text.trimStart s ≠ [] then throw .tooLong
  ofParts (Date.of? y m d) (Time.ofClock? hour minute second nanosecond) minutes

/-- The time stamp that a string names. -/
def parse (s : String) : Except Error Timestamp := parseChars s.toList

end HistoryTree.Timestamp
