import HistoryTree.Text.Decimal
import HistoryTree.Text.Split

/-!
# Labels in ASCII

A label with characters beyond ASCII has a form in ASCII: its ASCII characters, a hyphen,
and for each of the others, in increasing order, how many steps the insertion point goes on
through the places of the text and the code points.  These numbers are written in digits of
base 36, whose weights depend on a threshold for each place; the thresholds follow a bias
that is adapted after each number.
-/

namespace HistoryTree.Domain.Punycode

/-! ## Digits -/

/-- The digit for a number below 36. -/
def digit (n : Nat) : Char := if n < 26 then Char.ofNat (97 + n) else Text.digit (n - 26)

/-- The number of a digit. -/
def digitValue? (c : Char) : Option Nat :=
  if 'a' ≤ c ∧ c ≤ 'z' then some (c.toNat - 97)
  else if Text.isDigit c then some (Text.digitValue c + 26)
  else none

/-- The threshold of a place, the least place being number one. -/
def threshold (bias place : Nat) : Nat := min 26 (max 1 (36 * place - bias))

/-- The bias after a number, by the length of the text that it led to. -/
def adapt (isFirst : Bool) (number length : Nat) : Nat :=
  let damped := if isFirst then number / 700 else number / 2
  settle 0 (damped + damped / length)
where
  /-- The bias of a number that is divided until it is small. -/
  settle (bias n : Nat) : Nat :=
    if 455 < n then settle (bias + 36) (n / 35) else bias + 36 * n / (n + 38)
  termination_by n
  decreasing_by omega

/-! ## Reading -/

/-- The number at the start of a text, from a place of some weight on, and the rest. -/
def readNumber (bias : Nat) : (place weight : Nat) → List Char → Option (Nat × List Char)
  | _, _, [] => none
  | place, weight, c :: rest =>
    match digitValue? c with
    | none => none
    | some d =>
      let t := threshold bias place
      if d < t then some (d * weight, rest)
      else
        match readNumber bias (place + 1) (weight * (36 - t)) rest with
        | none => none
        | some (n, rest) => some (d * weight + n, rest)

theorem length_readNumber {bias place weight n : Nat} {s rest : List Char}
    (h : readNumber bias place weight s = some (n, rest)) : rest.length < s.length := by
  induction s generalizing place weight n with
  | nil => simp [readNumber] at h
  | cons c s ih =>
    rw [readNumber] at h
    split at h
    · simp at h
    · simp only at h
      split at h
      · simp only [Option.some.injEq, Prod.mk.injEq] at h
        simp [← h.2]
      · split at h
        · simp at h
        · rename_i hr
          simp only [Option.some.injEq, Prod.mk.injEq] at h
          rw [h.2] at hr
          have := ih hr
          simp
          omega

/-- The text after the insertions that the numbers of `s` describe.  The insertion point is a code
point and a place in the text. -/
def insertAll (bias code place : Nat) (isFirst : Bool) (text s : List Char) :
    Option (List Char) :=
  if s.isEmpty then some text
  else
    match h : readNumber bias 1 1 s with
    | none => none
    | some (n, rest) =>
      let length := text.length + 1
      let code := code + (place + n) / length
      let place := (place + n) % length
      if code.isValidChar then
        insertAll (adapt isFirst n length) code (place + 1) false
          (text.insertIdx place (Char.ofNat code)) rest
      else none
termination_by s.length
decreasing_by exact length_readNumber h

/-- The text of a form in ASCII. -/
def decode (s : List Char) : Option (List Char) :=
  match Text.splitLast? '-' s with
  | none => insertAll 72 128 0 true [] s
  | some ([], _) => none
  | some (plain, rest) => insertAll 72 128 0 true plain rest

/-! ## Writing -/

/-- A number in digits, from a place on. -/
def writeNumber (bias place n : Nat) : List Char :=
  let t := threshold bias place
  if n < t then [digit n]
  else digit (t + (n - t) % (36 - t)) :: writeNumber bias (place + 1) ((n - t) / (36 - t))
termination_by n
decreasing_by
  have : 1 ≤ threshold bias place := by simp only [threshold]; omega
  have := Nat.div_le_self (n - threshold bias place) (36 - threshold bias place)
  omega

/-- Where writing stands: the steps since the last insertion, the bias, and the number of
characters that the text has so far. -/
structure Progress where
  steps : Nat
  bias : Nat
  length : Nat
  isFirst : Bool

/-- The numbers for the occurrences of a code point in a text. -/
def writeOccurrences (code : Nat) : Progress → List Char → List Char × Progress
  | p, [] => ([], p)
  | p, c :: rest =>
    if c.toNat = code then
      let next : Progress := ⟨0, adapt p.isFirst p.steps (p.length + 1), p.length + 1, false⟩
      let (digits, p') := writeOccurrences code next rest
      (writeNumber p.bias 1 p.steps ++ digits, p')
    else
      writeOccurrences code { p with steps := p.steps + if c.toNat < code then 1 else 0 } rest

/-- The numbers for the code points of a text that are listed, in increasing order, from a code
point on. -/
def writeAll (s : List Char) (start : Nat) : Progress → List Nat → List Char
  | _, [] => []
  | p, code :: codes =>
    let skipped := (code - start) * (p.length + 1)
    let (digits, p') := writeOccurrences code { p with steps := p.steps + skipped } s
    digits ++ writeAll s (code + 1) { p' with steps := p'.steps + 1 } codes

/-- The form in ASCII of a text. -/
def encode (s : List Char) : List Char :=
  let plain := s.filter (·.toNat < 128)
  let codes := ((s.filter (128 ≤ ·.toNat)).map Char.toNat).mergeSort.eraseReps
  (if plain.isEmpty then [] else plain ++ ['-']) ++
    writeAll s 128 ⟨0, 72, plain.length, true⟩ codes

/-! ## Laws -/

theorem digitValue?_digit {n : Nat} (h : n < 36) : digitValue? (digit n) = some n :=
  (show ∀ n < 36, digitValue? (digit n) = some n by decide) n h

/-- A number reads back from its digits. -/
theorem readNumber_writeNumber (bias place weight n : Nat) (rest : List Char) :
    readNumber bias place weight (writeNumber bias place n ++ rest) = some (n * weight, rest) := by
  fun_induction writeNumber bias place n generalizing weight with
  | case1 place n t h =>
    have ht : t ≤ 26 := Nat.min_le_left ..
    simp only [List.cons_append, List.nil_append, readNumber,
      digitValue?_digit (show n < 36 by omega)]
    rw [if_pos h]
  | case2 place n t h ih =>
    have ht : t ≤ 26 := Nat.min_le_left ..
    have hm : (n - t) % (36 - t) < 36 - t := Nat.mod_lt _ (by omega)
    have hd : (n - t) % (36 - t) + (36 - t) * ((n - t) / (36 - t)) = n - t := Nat.mod_add_div ..
    simp only [List.cons_append, readNumber,
      digitValue?_digit (show t + (n - t) % (36 - t) < 36 by omega)]
    rw [if_neg (show ¬ t + (n - t) % (36 - t) < t by omega), ih]
    simp only [Option.some.injEq, Prod.mk.injEq, and_true]
    generalize (n - t) % (36 - t) = r at hm hd ⊢
    rw [show (n - t) / (36 - t) * (weight * (36 - t))
        = (36 - t) * ((n - t) / (36 - t)) * weight by ac_rfl, ← Nat.add_mul]
    congr 1
    omega

end HistoryTree.Domain.Punycode
