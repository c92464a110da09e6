/-!
# Texts as they arrive

A document may hold bytes that belong to no character.  `Symbols` keeps both: a
character, or `none` for a stray byte.  A text without stray bytes is recovered by
`Symbols.chars?` (`chars?_ofChars`).
-/

namespace HistoryTree

/-- A text as it arrives: characters, and `none` for each byte that belongs to none. -/
abbrev Symbols := List (Option Char)

namespace Symbols

/-- The symbols of a text without stray bytes. -/
def ofChars (cs : List Char) : Symbols := cs.map some

/-- The symbols of a string. -/
def ofString (s : String) : Symbols := ofChars s.toList

/-- The characters of a text, if it has no stray byte. -/
def chars? : Symbols → Option (List Char)
  | [] => some []
  | none :: _ => none
  | some c :: rest => (chars? rest).map (c :: ·)

/-- The number of bytes that a text takes. -/
def byteSize : Symbols → Nat
  | [] => 0
  | none :: rest => 1 + byteSize rest
  | some c :: rest => c.utf8Size + byteSize rest

/-! ## Reading bytes -/

/-- The six low bits of a continuation byte. -/
def tail? (b : UInt8) : Option Nat :=
  if 0x80 ≤ b ∧ b ≤ 0xBF then some (b.toNat - 0x80) else none

/-- The character of a scalar value of at least `least`, so that only the shortest form counts. -/
def scalar? (least n : Nat) : Option Char :=
  if least ≤ n ∧ n.isValidChar then some (Char.ofNat n) else none

/-- The character that starts with byte `b`, and how many of the bytes after it belong to it. -/
def char? (b : UInt8) (rest : List UInt8) : Option (Char × Nat) :=
  if b < 0x80 then some (Char.ofNat b.toNat, 0)
  else if 0xC2 ≤ b ∧ b ≤ 0xDF then
    match rest with
    | b₁ :: _ => do
        let t₁ ← tail? b₁
        return (← scalar? 0x80 ((b.toNat - 0xC0) * 64 + t₁), 1)
    | _ => none
  else if 0xE0 ≤ b ∧ b ≤ 0xEF then
    match rest with
    | b₁ :: b₂ :: _ => do
        let t₁ ← tail? b₁
        let t₂ ← tail? b₂
        return (← scalar? 0x800 (((b.toNat - 0xE0) * 64 + t₁) * 64 + t₂), 2)
    | _ => none
  else if 0xF0 ≤ b ∧ b ≤ 0xF4 then
    match rest with
    | b₁ :: b₂ :: b₃ :: _ => do
        let t₁ ← tail? b₁
        let t₂ ← tail? b₂
        let t₃ ← tail? b₃
        return (← scalar? 0x10000 ((((b.toNat - 0xF0) * 64 + t₁) * 64 + t₂) * 64 + t₃), 3)
    | _ => none
  else none

/-- The symbols of a list of bytes read as UTF-8; a byte that starts no character is stray. -/
def ofBytes : List UInt8 → Symbols
  | [] => []
  | b :: rest =>
    match char? b rest with
    | some (c, n) => some c :: ofBytes (rest.drop n)
    | none => none :: ofBytes rest
termination_by bytes => bytes.length
decreasing_by all_goals simp; try omega

/-! ## Laws -/

@[simp] theorem chars?_ofChars (cs : List Char) : (ofChars cs).chars? = some cs := by
  induction cs with
  | nil => rfl
  | cons c rest ih => simpa [ofChars, chars?] using congrArg (Option.map (c :: ·)) ih

@[simp] theorem ofChars_nil : ofChars [] = [] := rfl

@[simp] theorem ofChars_cons (c : Char) (cs : List Char) :
    ofChars (c :: cs) = some c :: ofChars cs := rfl

@[simp] theorem ofChars_append (cs ds : List Char) :
    ofChars (cs ++ ds) = ofChars cs ++ ofChars ds := by
  simp [ofChars]

end Symbols

end HistoryTree
