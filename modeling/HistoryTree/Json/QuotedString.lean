import HistoryTree.Json.Failure
import HistoryTree.Text.Symbols

/-!
# Quoted strings

A string of a document stands between double quotes and may hold escapes.  It is read
for its characters (`read`), or passed over (`pass`) without asking whether its bytes and
surrogates form characters.  `write` is the inverse: reading what it writes gives the
text back (`read_write`).
-/

namespace HistoryTree.Json.QuotedString

/-! ## Escapes -/

/-- The value of a hexadecimal digit. -/
def hexValue? (c : Char) : Option Nat :=
  let n := c.toNat
  if 48 ≤ n ∧ n ≤ 57 then some (n - 48)
  else if 97 ≤ n ∧ n ≤ 102 then some (n - 87)
  else if 65 ≤ n ∧ n ≤ 70 then some (n - 55)
  else none

/-- The value of a symbol that is a hexadecimal digit. -/
def hexSymbol? (s : Option Char) : Option Nat := s.bind hexValue?

/-- Four hexadecimal digits.  Anything else is malformed, unless fewer than four bytes are left. -/
def readFour : Symbols → Except Defect (Nat × Symbols)
  | a :: b :: c :: d :: rest =>
    match hexSymbol? a, hexSymbol? b, hexSymbol? c, hexSymbol? d with
    | some w, some x, some y, some z => .ok (((w * 16 + x) * 16 + y) * 16 + z, rest)
    | _, _, _, _ => .error .malformed
  | s => .error (if Symbols.byteSize s < 4 then .truncated else .malformed)

/-- The code unit is a low surrogate. -/
def isLow (n : Nat) : Bool := 0xDC00 ≤ n && n ≤ 0xDFFF

/-- The code unit is a high surrogate. -/
def isHigh (n : Nat) : Bool := 0xD800 ≤ n && n ≤ 0xDBFF

/-- The character after a backslash and `u`: one code unit, or a high surrogate and the low
surrogate escaped right behind it. -/
def readUnicode (s : Symbols) : Except Defect (Char × Symbols) :=
  match readFour s with
  | .error d => .error d
  | .ok (n, rest) =>
    if isLow n then .error .malformed
    else if isHigh n then
      match rest with
      | [] => .error .truncated
      | some '\\' :: [] => .error .truncated
      | some '\\' :: some 'u' :: rest =>
        match readFour rest with
        | .error d => .error d
        | .ok (m, rest) =>
          if isLow m then
            .ok (Char.ofNat (0x10000 + (n - 0xD800) * 0x400 + (m - 0xDC00)), rest)
          else .error .malformed
      | _ => .error .malformed
    else .ok (Char.ofNat n, rest)

/-- The character that a letter stands for after a backslash. -/
def simpleEscape? : Char → Option Char
  | '"' => some '"'
  | '\\' => some '\\'
  | '/' => some '/'
  | 'b' => some '\x08'
  | 'f' => some '\x0c'
  | 'n' => some '\n'
  | 'r' => some '\r'
  | 't' => some '\t'
  | _ => none

/-- The character after a backslash. -/
def readEscape : Symbols → Except Defect (Char × Symbols)
  | [] => .error .truncated
  | none :: _ => .error .malformed
  | some c :: rest =>
    if c = 'u' then readUnicode rest
    else
      match simpleEscape? c with
      | some x => .ok (x, rest)
      | none => .error .malformed

/-- What follows an escape, whose content does not matter. -/
def passEscape : Symbols → Except Defect Symbols
  | [] => .error .truncated
  | none :: _ => .error .malformed
  | some c :: rest =>
    if c = 'u' then (readFour rest).map (·.2)
    else if (simpleEscape? c).isSome then .ok rest
    else .error .malformed

theorem length_readFour {s : Symbols} {n : Nat} {r : Symbols} (h : readFour s = .ok (n, r)) :
    r.length < s.length := by
  rw [readFour.eq_def] at h
  split at h
  · split at h
    · simp only [Except.ok.injEq, Prod.mk.injEq] at h
      simp [← h.2]
      omega
    · simp at h
  · simp at h

theorem length_readUnicode {s : Symbols} {c : Char} {r : Symbols}
    (h : readUnicode s = .ok (c, r)) : r.length < s.length := by
  rw [readUnicode] at h
  split at h
  · simp at h
  · rename_i n rest hn
    have hl := length_readFour hn
    split at h
    · simp at h
    · split at h
      · split at h
        · simp at h
        · simp at h
        · rename_i rest'
          split at h
          · simp at h
          · rename_i m rest'' hm
            have hl' := length_readFour hm
            split at h
            · simp only [Except.ok.injEq, Prod.mk.injEq] at h
              simp only [← h.2]
              simp at hl
              omega
            · simp at h
        · simp at h
      · simp only [Except.ok.injEq, Prod.mk.injEq] at h
        simp only [← h.2]
        exact hl

theorem length_readEscape {s : Symbols} {c : Char} {r : Symbols}
    (h : readEscape s = .ok (c, r)) : r.length < s.length := by
  rw [readEscape.eq_def] at h
  split at h
  · simp at h
  · simp at h
  · split at h
    · have := length_readUnicode h
      simp
      omega
    · split at h
      · simp only [Except.ok.injEq, Prod.mk.injEq] at h
        simp [← h.2]
      · simp at h

theorem length_passEscape {s r : Symbols} (h : passEscape s = .ok r) : r.length < s.length := by
  rw [passEscape.eq_def] at h
  split at h
  · simp at h
  · simp at h
  · rename_i c rest
    split at h
    · cases hf : readFour rest with
      | error e => simp [hf, Except.map] at h
      | ok p =>
        have := length_readFour (n := p.1) (r := p.2) hf
        simp only [hf, Except.map, Except.ok.injEq] at h
        simp [← h]
        omega
    · split at h
      · simp only [Except.ok.injEq] at h
        simp [← h]
      · simp at h

/-! ## Reading -/

/-- The characters up to the closing quote, and what follows it.  A stray byte makes the string
malformed once its end is reached. -/
def read : Symbols → Except Defect (List Char × Symbols)
  | [] => .error .truncated
  | none :: rest =>
    match read rest with
    | .error d => .error d
    | .ok _ => .error .malformed
  | some c :: rest =>
    if c = '"' then .ok ([], rest)
    else if c = '\\' then
      match h : readEscape rest with
      | .error d => .error d
      | .ok (x, r) =>
        have := length_readEscape h
        match read r with
        | .error d => .error d
        | .ok (cs, r') => .ok (x :: cs, r')
    else if c.toNat < 0x20 then .error .malformed
    else
      match read rest with
      | .error d => .error d
      | .ok (cs, r) => .ok (c :: cs, r)
termination_by s => s.length
decreasing_by all_goals simp; try omega

/-- What follows the closing quote. -/
def pass : Symbols → Except Defect Symbols
  | [] => .error .truncated
  | none :: rest => pass rest
  | some c :: rest =>
    if c = '"' then .ok rest
    else if c = '\\' then
      match h : passEscape rest with
      | .error d => .error d
      | .ok r =>
        have := length_passEscape h
        pass r
    else if c.toNat < 0x20 then .error .malformed
    else pass rest
termination_by s => s.length
decreasing_by all_goals simp; try omega

/-- The closing quote is passed. -/
theorem length_pass {s r : Symbols} (h : pass s = .ok r) : r.length < s.length := by
  fun_induction pass s with
  | case1 => simp at h
  | case2 rest ih =>
    have := ih h
    simp
    omega
  | case3 =>
    simp only [Except.ok.injEq] at h
    simp [← h]
  | case4 => simp at h
  | case5 rest hc r' hr hl ih =>
    have := ih h
    simp
    omega
  | case6 => simp at h
  | case7 c rest _ _ _ ih =>
    have := ih h
    simp
    omega

/-! ## Writing -/

/-- The written form of a character: quotes, backslashes and control characters are escaped. -/
def writeChar (c : Char) : List Char :=
  if c = '"' then ['\\', '"']
  else if c = '\\' then ['\\', '\\']
  else if c = '\n' then ['\\', 'n']
  else if c = '\r' then ['\\', 'r']
  else if c = '\t' then ['\\', 't']
  else if c = '\x08' then ['\\', 'b']
  else if c = '\x0c' then ['\\', 'f']
  else if c.toNat < 0x20 then
    ['\\', 'u', '0', '0', Text.hexDigit (c.toNat / 16), Text.hexDigit (c.toNat % 16)]
  else [c]

/-- The written form of a text, between quotes. -/
def write (s : List Char) : List Char := '"' :: s.flatMap writeChar ++ ['"']

/-- Reading goes on behind an escape. -/
theorem read_escape {s t : Symbols} {x : Char} {cs : List Char} {r : Symbols}
    (hx : readEscape s = .ok (x, t)) (h : read t = .ok (cs, r)) :
    read (some '\\' :: s) = .ok (x :: cs, r) := by
  rw [read, if_neg (by decide), if_pos rfl]
  split
  · rename_i d hd
    simp [hx] at hd
  · rename_i y u hu
    simp only [hx, Except.ok.injEq, Prod.mk.injEq] at hu
    obtain ⟨rfl, rfl⟩ := hu
    simp [h]

/-- Reading a written character gives it back, in front of whatever is read behind it. -/
theorem read_writeChar (c : Char) {s : Symbols} {cs : List Char} {r : Symbols}
    (h : read s = .ok (cs, r)) :
    read (Symbols.ofChars (writeChar c) ++ s) = .ok (c :: cs, r) := by
  have simple {x y : Char} (hx : x ≠ 'u') (hy : simpleEscape? x = some y) :
      read (some '\\' :: some x :: s) = .ok (y :: cs, r) :=
    read_escape (by simp [readEscape, hx, hy]) h
  rw [writeChar]
  split
  · subst c
    exact simple (by decide) rfl
  split
  · subst c
    exact simple (by decide) rfl
  split
  · subst c
    exact simple (by decide) rfl
  split
  · subst c
    exact simple (by decide) rfl
  split
  · subst c
    exact simple (by decide) rfl
  split
  · subst c
    exact simple (by decide) rfl
  split
  · subst c
    exact simple (by decide) rfl
  split
  · rename_i hc
    have key : ∀ n < 0x20,
        hexValue? (Text.hexDigit (n / 16)) = some (n / 16) ∧
        hexValue? (Text.hexDigit (n % 16)) = some (n % 16) := by decide
    have hv : readFour (some '0' :: some '0' :: some (Text.hexDigit (c.toNat / 16)) ::
        some (Text.hexDigit (c.toNat % 16)) :: s) = .ok (c.toNat, s) := by
      obtain ⟨h₁, h₂⟩ := key c.toNat hc
      have h₀ : hexValue? '0' = some 0 := by decide
      simp [readFour, hexSymbol?, h₀, h₁, h₂]
      omega
    have hl : isLow c.toNat = false := by simp [isLow]; omega
    have hh : isHigh c.toNat = false := by simp [isHigh]; omega
    exact read_escape (by simp [readEscape, readUnicode, hv, hl, hh]) h
  · rename_i hq hb _ _ _ _ _ hc
    simp [read, hq, hb, hc, h]

/-- Reading a written text gives it back, and stops behind the closing quote. -/
theorem read_write (cs : List Char) (r : Symbols) :
    read (Symbols.ofChars (cs.flatMap writeChar ++ ['"']) ++ r) = .ok (cs, r) := by
  induction cs with
  | nil => simp [read]
  | cons c cs ih =>
    rw [List.flatMap_cons, List.append_assoc, Symbols.ofChars_append, List.append_assoc]
    exact read_writeChar c ih

end HistoryTree.Json.QuotedString
