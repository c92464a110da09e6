import HistoryTree.Json.Failure
import HistoryTree.Text.Symbols

/-!
# Numerals

The decimal numerals of a document, split into sign, digits before and after the point
and exponent, and the number that such a numeral stands for.
-/

namespace HistoryTree.Json

/-- A numeral in its parts; `fraction` and `exponent` are there only if written. -/
structure Numeral where
  negative : Bool
  digits : List Char
  fraction : Option (List Char)
  exponent : Option (Bool × List Char)
  deriving DecidableEq, Repr

namespace Numeral

/-! ## Value -/

/-- The greatest unsigned integer of 64 bits. -/
def maxUnsigned : Nat := UInt64.size - 1

/-- The digits taken into a significand of at most 64 bits, and the digits that no longer fit. -/
def takeDigits (significand : Nat) : List Char → Nat × List Char
  | [] => (significand, [])
  | c :: rest =>
    let next := 10 * significand + Text.digitValue c
    if next ≤ maxUnsigned then takeDigits next rest else (significand, c :: rest)

/-- The written power of ten. -/
def exponentValue (n : Numeral) : Int :=
  match n.exponent with
  | none => 0
  | some (negative, ds) => if negative then -(Text.valueOf ds : Int) else Text.valueOf ds

/-- The magnitude of a numeral as a fraction.  Digits that do not fit into the significand are
dropped: before the point they count for the power of ten, after it they are lost. -/
def magnitude (n : Numeral) : Option Magnitude :=
  let (s, dropped) := takeDigits 0 n.digits
  let fraction := n.fraction.getD []
  let (s, lost) := takeDigits s fraction
  let shift : Int := dropped.length - (fraction.length - lost.length : Nat)
  Magnitude.ofParts s (shift + n.exponentValue)

/-- The number that a numeral stands for.  Without point and exponent it is an integer if 64 bits
hold it, signed below zero and unsigned above; minus zero is a fraction. -/
def value (n : Numeral) : Except Defect Number :=
  let real : Except Defect Number :=
    match n.magnitude with
    | some m => .ok (.real ⟨n.negative, m⟩)
    | none => .error .malformed
  match n.fraction, n.exponent with
  | none, none =>
    let v := Text.valueOf n.digits
    if n.negative then
      if 0 < v ∧ v ≤ UInt64.size / 2 then .ok (.integer (-v)) else real
    else if v ≤ maxUnsigned then .ok (.integer v) else real
  | _, _ => real

/-! ## Reading -/

/-- The digits at the start of a text, and the rest. -/
def spanDigits : Symbols → List Char × Symbols
  | some c :: rest =>
    if Text.isDigit c then
      let (ds, r) := spanDigits rest
      (c :: ds, r)
    else ([], some c :: rest)
  | s => ([], s)

/-- At least one digit; `truncated` where the text ends instead. -/
def someDigits (s : Symbols) : Except Defect (List Char × Symbols) :=
  match spanDigits s with
  | ([], []) => .error .truncated
  | ([], _ :: _) => .error .malformed
  | (c :: cs, r) => .ok (c :: cs, r)

/-- The digits before the point: a zero stands alone. -/
def wholeDigits (s : Symbols) : Except Defect (List Char × Symbols) :=
  match someDigits s with
  | .ok ('0' :: _ :: _, _) => .error .malformed
  | r => r

/-- The fraction, if a point follows. -/
def fractionPart : Symbols → Except Defect (Option (List Char) × Symbols)
  | some '.' :: rest => (someDigits rest).map fun (ds, r) => (some ds, r)
  | s => .ok (none, s)

/-- The exponent, if a letter `e` follows. -/
def exponentPart : Symbols → Except Defect (Option (Bool × List Char) × Symbols)
  | some c :: rest =>
    if c = 'e' ∨ c = 'E' then
      match rest with
      | some '-' :: r => (someDigits r).map fun (ds, r) => (some (true, ds), r)
      | some '+' :: r => (someDigits r).map fun (ds, r) => (some (false, ds), r)
      | r => (someDigits r).map fun (ds, r) => (some (false, ds), r)
    else .ok (none, some c :: rest)
  | s => .ok (none, s)

/-- The numeral at the start of a text whose sign is already read, and the rest. -/
def readUnsigned (negative : Bool) (s : Symbols) : Except Defect (Numeral × Symbols) := do
  let (digits, s) ← wholeDigits s
  let (fraction, s) ← fractionPart s
  let (exponent, s) ← exponentPart s
  return (⟨negative, digits, fraction, exponent⟩, s)

/-- The numeral at the start of a text, and the rest. -/
def read : Symbols → Except Defect (Numeral × Symbols)
  | some '-' :: rest => readUnsigned true rest
  | s => readUnsigned false s

/-! ## Lengths -/

theorem length_spanDigits (s : Symbols) :
    (spanDigits s).1.length + (spanDigits s).2.length = s.length := by
  fun_induction spanDigits s with
  | case1 c rest hc ds r h ih => simp only [h] at ih; simp; omega
  | case2 => simp
  | case3 => simp

theorem length_someDigits {s : Symbols} {ds : List Char} {r : Symbols}
    (h : someDigits s = .ok (ds, r)) : r.length < s.length := by
  have hl := length_spanDigits s
  rw [someDigits] at h
  split at h
  · simp at h
  · simp at h
  · rename_i c cs r' hs
    simp only [Except.ok.injEq, Prod.mk.injEq] at h
    simp only [hs, List.length_cons] at hl
    simp only [← h.2]
    omega

theorem length_wholeDigits {s : Symbols} {d : List Char} {r : Symbols}
    (h : wholeDigits s = .ok (d, r)) : r.length < s.length := by
  rw [wholeDigits] at h
  split at h
  · simp at h
  · exact length_someDigits h

theorem length_fractionPart {s : Symbols} {f : Option (List Char)} {r : Symbols}
    (h : fractionPart s = .ok (f, r)) : r.length ≤ s.length := by
  rw [fractionPart.eq_def] at h
  split at h
  · rename_i rest
    cases hd : someDigits rest with
    | error e => simp [hd, Except.map] at h
    | ok p =>
      obtain ⟨ds, r'⟩ := p
      simp only [hd, Except.map, Except.ok.injEq, Prod.mk.injEq] at h
      have := length_someDigits hd
      simp [← h.2]
      omega
  · simp only [Except.ok.injEq, Prod.mk.injEq] at h
    simp [h.2]

theorem length_exponentPart {s : Symbols} {x : Option (Bool × List Char)} {r : Symbols}
    (h : exponentPart s = .ok (x, r)) : r.length ≤ s.length := by
  have key {b : Bool} {t : Symbols}
      (ht : (someDigits t).map (fun (ds, r) => (some (b, ds), r)) = .ok (x, r)) :
      r.length < t.length := by
    cases hd : someDigits t with
    | error e => simp [hd, Except.map] at ht
    | ok p =>
      obtain ⟨ds, r'⟩ := p
      simp only [hd, Except.map, Except.ok.injEq, Prod.mk.injEq] at ht
      have := length_someDigits hd
      simp only [← ht.2]
      exact this
  rw [exponentPart.eq_def] at h
  split at h
  · split at h
    · split at h
      · have := key h
        simp
        omega
      · have := key h
        simp
        omega
      · have := key h
        simp
        omega
    · simp only [Except.ok.injEq, Prod.mk.injEq] at h
      simp [← h.2]
  · simp only [Except.ok.injEq, Prod.mk.injEq] at h
    simp [h.2]

/-- A numeral takes at least one symbol. -/
theorem length_read {s : Symbols} {n : Numeral} {r : Symbols} (h : read s = .ok (n, r)) :
    r.length < s.length := by
  have key {b : Bool} {t : Symbols} (ht : readUnsigned b t = .ok (n, r)) :
      r.length < t.length := by
    simp only [readUnsigned, bind, Except.bind, pure, Except.pure] at ht
    split at ht
    · simp at ht
    · rename_i p₁ h₁
      split at ht
      · simp at ht
      · rename_i p₂ h₂
        split at ht
        · simp at ht
        · rename_i p₃ h₃
          have l₁ := length_wholeDigits (d := p₁.1) (r := p₁.2) h₁
          have l₂ := length_fractionPart (f := p₂.1) (r := p₂.2) h₂
          have l₃ := length_exponentPart (x := p₃.1) (r := p₃.2) h₃
          simp only [Except.ok.injEq, Prod.mk.injEq] at ht
          simp only [← ht.2]
          omega
  rw [read.eq_def] at h
  split at h
  · have := key h
    simp
    omega
  · exact key h

end Numeral

end HistoryTree.Json
