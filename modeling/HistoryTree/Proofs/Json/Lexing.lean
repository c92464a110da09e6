import HistoryTree.Json.Token
import HistoryTree.Json.Value
import Mathlib.Algebra.Group.Int.Defs

/-!
# The tokens of a written value

A value is written by joining its tokens, with blanks between some of them.  The tokens of the
written form are therefore those of the value, in whichever of the two layouts it is written
(`Token.lexes_compact`, `Token.lexes_prettyAt`).  A numeral is the only token that could go on
behind its end: `Numeral.Ends` says of what stands there that it does not.  Fractions are left
out, because they are written with as few digits as tell them apart, which are not always read as
the same fraction again.
-/

namespace HistoryTree.Json

/-! ## Numerals -/

namespace Numeral

/-- Whether a numeral may go on with a character. -/
def goesOn (c : Char) : Bool := Text.isDigit c || c = '.' || c = 'e' || c = 'E'

/-- A numeral in front of the text ends there. -/
def Ends : Symbols → Prop
  | some c :: _ => goesOn c = false
  | _ => True

variable {ds : List Char} {s : Symbols}

theorem spanDigits_of_ends (hs : Ends s) : spanDigits s = ([], s) := by
  match s, hs with
  | [], _ => rfl
  | none :: _, _ => rfl
  | some c :: _, hs =>
    have hc : Text.isDigit c = false := by simp_all [Ends, goesOn]
    rw [spanDigits, if_neg (by simp [hc])]

theorem spanDigits_append (hds : ∀ c ∈ ds, Text.isDigit c = true) (hs : Ends s) :
    spanDigits (Symbols.ofChars ds ++ s) = (ds, s) := by
  induction ds with
  | nil => exact spanDigits_of_ends hs
  | cons c ds ih =>
    have hc : Text.isDigit c = true := hds c List.mem_cons_self
    rw [Symbols.ofChars_cons, List.cons_append, spanDigits, if_pos hc,
      ih fun d hd => hds d (List.mem_cons_of_mem c hd)]

theorem fractionPart_of_ends (hs : Ends s) : fractionPart s = .ok (none, s) := by
  rw [fractionPart.eq_def]
  split
  · exact absurd hs (by simp [Ends, goesOn])
  · rfl

theorem exponentPart_of_ends (hs : Ends s) : exponentPart s = .ok (none, s) := by
  match s, hs with
  | [], _ => rfl
  | none :: _, _ => rfl
  | some c :: _, hs =>
    have hc : ¬ (c = 'e' ∨ c = 'E') := by simp_all [Ends, goesOn]
    rw [exponentPart.eq_def]
    exact if_neg hc

theorem wholeDigits_decimal (n : Nat) (hs : Ends s) :
    wholeDigits (Symbols.ofChars (Text.decimal n) ++ s) = .ok (Text.decimal n, s) := by
  have hspan := spanDigits_append (fun c hc => Text.isDigit_of_mem_decimal (n := n) hc) hs
  have hsome : someDigits (Symbols.ofChars (Text.decimal n) ++ s) = .ok (Text.decimal n, s) := by
    rw [someDigits, hspan]
    cases h : Text.decimal n with
    | nil => exact absurd h (Text.decimal_ne_nil n)
    | cons c cs => rfl
  rw [wholeDigits, hsome]
  split
  · rename_i c cs rest h
    simp only [Except.ok.injEq, Prod.mk.injEq] at h
    exact absurd (Text.decimal_head n h.1).2 (by simp)
  · rfl

/-- A number that is written in digits is read as these digits, up to where it ends. -/
theorem readUnsigned_decimal (negative : Bool) (n : Nat) (hs : Ends s) :
    readUnsigned negative (Symbols.ofChars (Text.decimal n) ++ s)
      = .ok (⟨negative, Text.decimal n, none, none⟩, s) := by
  simp only [readUnsigned, wholeDigits_decimal n hs, bind, Except.bind, fractionPart_of_ends hs,
    exponentPart_of_ends hs]
  rfl

/-- The numeral of an integer. -/
def ofInt (n : Int) : Numeral := ⟨n < 0, Text.decimal n.natAbs, none, none⟩

theorem head_decimalInt (n : Int) :
    ∃ c cs, Text.decimalInt n = c :: cs ∧ (c = '-' ∨ Text.isDigit c = true) := by
  rw [Text.decimalInt]
  split
  · exact ⟨'-', _, rfl, .inl rfl⟩
  · cases h : Text.decimal n.natAbs with
    | nil => exact absurd h (Text.decimal_ne_nil _)
    | cons c cs =>
      refine ⟨c, cs, rfl, .inr (Text.isDigit_of_mem_decimal (n := n.natAbs) ?_)⟩
      rw [h]
      exact List.mem_cons_self

theorem read_decimalInt (n : Int) (hs : Ends s) :
    read (Symbols.ofChars (Text.decimalInt n) ++ s) = .ok (ofInt n, s) := by
  rw [ofInt, Text.decimalInt]
  split
  · rename_i hn
    rw [Symbols.ofChars_cons, List.cons_append, read, readUnsigned_decimal true _ hs]
    simp [hn]
  · rename_i hn
    have hread : read (Symbols.ofChars (Text.decimal n.natAbs) ++ s)
        = readUnsigned false (Symbols.ofChars (Text.decimal n.natAbs) ++ s) := by
      rw [read.eq_def]
      split
      · rename_i rest h
        cases hd : Text.decimal n.natAbs with
        | nil => exact absurd hd (Text.decimal_ne_nil _)
        | cons c cs =>
          have hc : Text.isDigit c = true :=
            Text.isDigit_of_mem_decimal (n := n.natAbs) (by rw [hd]; exact List.mem_cons_self)
          rw [hd, Symbols.ofChars_cons, List.cons_append, List.cons.injEq] at h
          obtain rfl : c = '-' := Option.some.inj h.1
          exact absurd hc (by decide)
      · rfl
    rw [hread, readUnsigned_decimal false _ hs]
    simp [hn]

/-- An integer of 64 bits, signed or unsigned, is what its numeral stands for. -/
theorem value_ofInt {n : Int} (hlow : -2 ^ 63 ≤ n) (hhigh : n < 2 ^ 64) :
    (ofInt n).value = .ok (.integer n) := by
  have hmax : maxUnsigned = 18446744073709551615 := rfl
  have hsize : UInt64.size / 2 = 9223372036854775808 := rfl
  simp only [ofInt, value, Text.valueOf_decimal, hmax, hsize, decide_eq_true_eq]
  split
  · rw [if_pos (by omega)]
    congr 2
    omega
  · rw [if_pos (by omega)]
    congr 2
    omega

end Numeral

/-! ## Strings -/

namespace QuotedString

variable {s t : Symbols} {c : Char} {cs : List Char}

theorem pass_of_escape (h : passEscape s = .ok t) : pass (some '\\' :: s) = pass t := by
  rw [pass, if_neg (by decide), if_pos rfl]
  split
  · rename_i d hd
    rw [h] at hd
    cases hd
  · rename_i r hr
    rw [h] at hr
    cases hr
    rfl

/-- An escape that stands for a character is passed over, be it one or a pair of them. -/
theorem pass_of_readEscape (h : readEscape s = .ok (c, t)) : pass (some '\\' :: s) = pass t := by
  rw [readEscape.eq_def] at h
  split at h
  · cases h
  · cases h
  · rename_i x rest
    split at h
    · rename_i hx
      rw [readUnicode] at h
      split at h
      · cases h
      · rename_i n r hn
        have hfirst : passEscape (some x :: rest) = .ok r := by
          rw [passEscape, if_pos hx, hn]
          rfl
        rw [pass_of_escape hfirst]
        split at h
        · cases h
        · split at h
          · -- a high surrogate and the low one behind it
            split at h
            · cases h
            · cases h
            · rename_i rest'
              split at h
              · cases h
              · rename_i m r' hm
                split at h
                · simp only [Except.ok.injEq, Prod.mk.injEq] at h
                  obtain ⟨-, rfl⟩ := h
                  refine pass_of_escape ?_
                  rw [passEscape, if_pos rfl, hm]
                  rfl
                · cases h
            · cases h
          · cases h
            rfl
    · rename_i hx
      split at h
      · rename_i y hy
        cases h
        refine pass_of_escape ?_
        rw [passEscape, if_neg hx, hy]
        rfl
      · cases h

/-- What can be read can be passed over. -/
theorem pass_of_read (h : read s = .ok (cs, t)) : pass s = .ok t := by
  fun_induction read s generalizing cs t with
  | case1 => cases h
  | case2 => cases h
  | case3 => cases h
  | case4 rest =>
    cases h
    rw [pass, if_pos rfl]
  | case5 => cases h
  | case6 => cases h
  | case7 rest x r hx _ ds r' hr _ ih =>
    cases h
    rw [pass_of_readEscape hx]
    exact ih hr
  | case8 => cases h
  | case9 => cases h
  | case10 c rest hquote hescape hcontrol ds r hr ih =>
    cases h
    rw [pass, if_neg hquote, if_neg hescape, if_neg hcontrol]
    exact ih hr

end QuotedString

/-! ## Texts and their tokens -/

namespace Token

open Numeral (Ends)

/-- The tokens of a text, whatever stands behind it, unless it makes the last numeral longer. -/
def Lexes (s : List Char) (ts : List Token) : Prop :=
  ∀ rest, Ends rest → tokens (Symbols.ofChars s ++ rest) = ts ++ tokens rest

variable {s s' : List Char} {ts ts' : List Token} {c : Char} {t : Token}

theorem eq_of_isSpace (h : isSpace (some c) = true) : c = ' ' ∨ c = '\n' ∨ c = '\t' ∨ c = '\r' := by
  simpa [isSpace, or_assoc] using h

theorem lexes_nil : Lexes [] [] := fun _ _ => rfl

theorem Lexes.append (hs : Lexes s ts) (hs' : Lexes s' ts')
    (hends : ∀ rest, Ends rest → Ends (Symbols.ofChars s' ++ rest)) :
    Lexes (s ++ s') (ts ++ ts') := by
  intro rest hrest
  rw [Symbols.ofChars_append, List.append_assoc, hs _ (hends rest hrest), hs' rest hrest,
    List.append_assoc]

theorem Lexes.blank (hc : isSpace (some c) = true) (hs : Lexes s ts) : Lexes (c :: s) ts := by
  intro rest hrest
  rw [Symbols.ofChars_cons, List.cons_append, tokens, if_pos hc, hs rest hrest]

/-- No token starts with a blank. -/
theorem not_isSpace_of_next {w : Symbols} (h : ∀ rest, next (some c) (w ++ rest) = (t, rest)) :
    isSpace (some c) = false := by
  rw [Bool.eq_false_iff]
  intro hc
  have hstray : next (some c) (w ++ [none]) = (stray, []) := by
    rcases eq_of_isSpace hc with rfl | rfl | rfl | rfl <;> rfl
  rw [h [none], Prod.mk.injEq] at hstray
  exact absurd hstray.2 (by simp)

/-- A token in front of a text, if it does not depend on what stands behind it. -/
theorem Lexes.cons {w : List Char}
    (hnext : ∀ rest, next (some c) (Symbols.ofChars w ++ rest) = (t, rest)) (hs : Lexes s ts) :
    Lexes (c :: w ++ s) (t :: ts) := by
  intro rest hrest
  rw [Symbols.ofChars_append, Symbols.ofChars_cons, List.append_assoc, List.cons_append, tokens,
    if_neg (by simp [not_isSpace_of_next hnext]), hnext, hs rest hrest, List.cons_append]

theorem Lexes.mark (hnext : ∀ rest, next (some c) rest = (t, rest)) (hs : Lexes s ts) :
    Lexes (c :: s) (t :: ts) :=
  Lexes.cons (w := []) hnext hs

theorem Lexes.newline (level : Nat) (hs : Lexes s ts) : Lexes (Value.newline level ++ s) ts := by
  refine Lexes.blank (by decide) ?_
  induction 2 * level with
  | zero => exact hs
  | succ n ih => exact Lexes.blank (by decide) ih

theorem stringAt_write (k : String) (rest : Symbols) :
    stringAt (Symbols.ofChars (k.toList.flatMap QuotedString.writeChar ++ ['"']) ++ rest)
      = (string (.of k), rest) := by
  have hread := QuotedString.read_write k.toList rest
  have hpass := QuotedString.pass_of_read hread
  simp only [stringAt, hread, hpass, Except.map, String.ofList_toList, Scan.of]

theorem Lexes.quoted (k : String) (hs : Lexes s ts) :
    Lexes (QuotedString.write k.toList ++ s) (string (.of k) :: ts) :=
  Lexes.cons (stringAt_write k) hs

theorem next_of_numeral (hc : c = '-' ∨ Text.isDigit c = true) (rest : Symbols) :
    next (some c) rest = numberAt (some c :: rest) := by
  rw [next.eq_def]
  split
  case h_11 d _ h =>
    cases h
    exact if_pos hc
  case h_12 h => cases h
  all_goals
    rename_i h
    cases h
    exact absurd hc (by decide)

theorem not_isSpace_of_numeral (hc : c = '-' ∨ Text.isDigit c = true) :
    isSpace (some c) = false := by
  rw [Bool.eq_false_iff]
  intro h
  rcases eq_of_isSpace h with rfl | rfl | rfl | rfl <;> exact absurd hc (by decide)

theorem lexes_decimalInt {n : Int} (hlow : -2 ^ 63 ≤ n) (hhigh : n < 2 ^ 64) :
    Lexes (Text.decimalInt n) [number (.of (.integer n))] := by
  intro rest hrest
  obtain ⟨c, cs, hcs, hc⟩ := Numeral.head_decimalInt n
  have hread := Numeral.read_decimalInt n hrest
  rw [hcs, Symbols.ofChars_cons, List.cons_append] at hread
  rw [hcs, Symbols.ofChars_cons, List.cons_append, tokens,
    if_neg (by simp [not_isSpace_of_numeral hc]), next_of_numeral hc, numberAt, hread]
  simp only [Numeral.value_ofInt hlow hhigh]
  rfl

end Token

/-! ## The tokens of a value -/

mutual

/-- The tokens that a value is written with. -/
def Token.ofValue : Value → List Token
  | .null => [.null]
  | .bool b => [.bool b]
  | .number n => [.number (.of n)]
  | .string s => [.string (.of s)]
  | .array [] => [.openArray, .closeArray]
  | .array (v :: vs) => .openArray :: ofValue v ++ ofItems vs
  | .object [] => [.openObject, .closeObject]
  | .object ((k, v) :: ms) =>
    .openObject :: .string (.of k) :: .colon :: ofValue v ++ ofMembers ms

/-- The tokens of the items behind the first one, and of the end of the array. -/
def Token.ofItems : List Value → List Token
  | [] => [.closeArray]
  | v :: vs => .comma :: ofValue v ++ ofItems vs

/-- The tokens of the members behind the first one, and of the end of the object. -/
def Token.ofMembers : List (String × Value) → List Token
  | [] => [.closeObject]
  | (k, v) :: ms => .comma :: .string (.of k) :: .colon :: ofValue v ++ ofMembers ms

end

mutual

/-- Every number of a value is an integer of 64 bits, signed or unsigned. -/
def Value.Integral : Value → Prop
  | .number (.integer n) => -2 ^ 63 ≤ n ∧ n < 2 ^ 64
  | .number (.real _) => False
  | .array vs => ItemsIntegral vs
  | .object ms => MembersIntegral ms
  | .null | .bool _ | .string _ => True

/-- All values of a list are integral. -/
def Value.ItemsIntegral : List Value → Prop
  | [] => True
  | v :: vs => Integral v ∧ ItemsIntegral vs

/-- The values of all members are integral. -/
def Value.MembersIntegral : List (String × Value) → Prop
  | [] => True
  | (_, v) :: ms => Integral v ∧ MembersIntegral ms

end

namespace Value

theorem itemsIntegral_iff {vs : List Value} : ItemsIntegral vs ↔ ∀ v ∈ vs, v.Integral := by
  induction vs with
  | nil => simp [ItemsIntegral]
  | cons v vs ih => simp [ItemsIntegral, ih]

theorem membersIntegral_iff {ms : List (String × Value)} :
    MembersIntegral ms ↔ ∀ m ∈ ms, m.2.Integral := by
  induction ms with
  | nil => simp [MembersIntegral]
  | cons m ms ih => simp [MembersIntegral, ih]

theorem integral_int (i : Int64) : (int i.toInt).Integral :=
  ⟨Int64.le_toInt i, by have := Int64.toInt_lt i; omega⟩

end Value

namespace Token

open Numeral (Ends)
open Value (compact compactItems compactMembers prettyAt prettyItems prettyMembers)

theorem ends_compactItems (vs : List Value) (rest : Symbols) :
    Ends (Symbols.ofChars (compactItems vs) ++ rest) := by
  cases vs <;> rfl

theorem ends_compactMembers (ms : List (String × Value)) (rest : Symbols) :
    Ends (Symbols.ofChars (compactMembers ms) ++ rest) := by
  cases ms <;> rfl

theorem ends_prettyItems (level : Nat) (vs : List Value) (rest : Symbols) :
    Ends (Symbols.ofChars (prettyItems level vs) ++ rest) := by
  cases vs <;> rfl

theorem ends_prettyMembers (level : Nat) (ms : List (String × Value)) (rest : Symbols) :
    Ends (Symbols.ofChars (prettyMembers level ms) ++ rest) := by
  cases ms <;> rfl

theorem lexes_null : Lexes ['n', 'u', 'l', 'l'] [null] :=
  Lexes.cons (w := ['u', 'l', 'l']) (fun _ => rfl) lexes_nil

theorem lexes_bool (b : Bool) : Lexes (Value.boolChars b) [bool b] := by
  cases b with
  | true => exact Lexes.cons (w := ['r', 'u', 'e']) (fun _ => rfl) lexes_nil
  | false => exact Lexes.cons (w := ['a', 'l', 's', 'e']) (fun _ => rfl) lexes_nil

theorem lexes_number : ∀ n : Number, (Value.number n).Integral →
    Lexes (Value.numberChars n) [number (.of n)]
  | .integer _, h => lexes_decimalInt h.1 h.2

theorem lexes_string (s : String) : Lexes (QuotedString.write s.toList) [string (.of s)] := by
  have h := Lexes.quoted s lexes_nil
  rwa [List.append_nil] at h

theorem lexes_emptyArray : Lexes ['[', ']'] [openArray, closeArray] :=
  Lexes.mark (fun _ => rfl) (Lexes.mark (fun _ => rfl) lexes_nil)

theorem lexes_emptyObject : Lexes ['\x7b', '\x7d'] [openObject, closeObject] :=
  Lexes.mark (fun _ => rfl) (Lexes.mark (fun _ => rfl) lexes_nil)

/-! ### One line -/

theorem Lexes.member (k : String) (hs : Lexes s ts) :
    Lexes (QuotedString.write k.toList ++ ':' :: s) (string (.of k) :: colon :: ts) :=
  Lexes.quoted k (Lexes.mark (fun _ => rfl) hs)

mutual

/-- The form without blanks has the tokens of the value. -/
theorem lexes_compact : ∀ v : Value, v.Integral → Lexes (compact v) (ofValue v)
  | .null, _ => lexes_null
  | .bool b, _ => lexes_bool b
  | .number n, h => lexes_number n h
  | .string s, _ => lexes_string s
  | .array [], _ => lexes_emptyArray
  | .array (v :: vs), h =>
    (Lexes.mark (fun _ => rfl) (lexes_compact v h.1)).append (lexes_compactItems vs h.2)
      fun rest _ => ends_compactItems vs rest
  | .object [], _ => lexes_emptyObject
  | .object ((k, v) :: ms), h =>
    (Lexes.mark (fun _ => rfl) ((lexes_compact v h.1).member k)).append
      (lexes_compactMembers ms h.2) fun rest _ => ends_compactMembers ms rest

theorem lexes_compactItems : ∀ vs : List Value, Value.ItemsIntegral vs →
    Lexes (compactItems vs) (ofItems vs)
  | [], _ => Lexes.mark (fun _ => rfl) lexes_nil
  | v :: vs, h =>
    (Lexes.mark (fun _ => rfl) (lexes_compact v h.1)).append (lexes_compactItems vs h.2)
      fun rest _ => ends_compactItems vs rest

theorem lexes_compactMembers : ∀ ms : List (String × Value), Value.MembersIntegral ms →
    Lexes (compactMembers ms) (ofMembers ms)
  | [], _ => Lexes.mark (fun _ => rfl) lexes_nil
  | (k, v) :: ms, h =>
    (Lexes.mark (fun _ => rfl) ((lexes_compact v h.1).member k)).append
      (lexes_compactMembers ms h.2) fun rest _ => ends_compactMembers ms rest

end

/-! ### Several lines -/

theorem Lexes.spacedMember (k : String) (hs : Lexes s ts) :
    Lexes (QuotedString.write k.toList ++ [':', ' '] ++ s) (string (.of k) :: colon :: ts) := by
  rw [List.append_assoc]
  exact Lexes.quoted k (Lexes.mark (fun _ => rfl) (hs.blank (by decide)))

mutual

/-- The form over several lines has the tokens of the value. -/
theorem lexes_prettyAt (level : Nat) : ∀ v : Value, v.Integral →
    Lexes (prettyAt level v) (ofValue v)
  | .null, _ => lexes_null
  | .bool b, _ => lexes_bool b
  | .number n, h => lexes_number n h
  | .string s, _ => lexes_string s
  | .array [], _ => lexes_emptyArray
  | .array (v :: vs), h =>
    (Lexes.mark (fun _ => rfl) ((lexes_prettyAt (level + 1) v h.1).newline (level + 1))).append
      (lexes_prettyItems level vs h.2) fun rest _ => ends_prettyItems level vs rest
  | .object [], _ => lexes_emptyObject
  | .object ((k, v) :: ms), h => by
    have hmember := ((lexes_prettyAt (level + 1) v h.1).spacedMember k).newline (level + 1)
    have h := (Lexes.mark (c := '\x7b') (fun _ => rfl) hmember).append
      (lexes_prettyMembers level ms h.2) fun rest _ => ends_prettyMembers level ms rest
    simpa only [prettyAt, ofValue, List.cons_append, List.append_assoc] using h

theorem lexes_prettyItems (level : Nat) : ∀ vs : List Value, Value.ItemsIntegral vs →
    Lexes (prettyItems level vs) (ofItems vs)
  | [], _ => (Lexes.mark (fun _ => rfl) lexes_nil).newline level
  | v :: vs, h =>
    (Lexes.mark (fun _ => rfl) ((lexes_prettyAt (level + 1) v h.1).newline (level + 1))).append
      (lexes_prettyItems level vs h.2) fun rest _ => ends_prettyItems level vs rest

theorem lexes_prettyMembers (level : Nat) : ∀ ms : List (String × Value),
    Value.MembersIntegral ms → Lexes (prettyMembers level ms) (ofMembers ms)
  | [], _ => (Lexes.mark (fun _ => rfl) lexes_nil).newline level
  | (k, v) :: ms, h => by
    have hmember := ((lexes_prettyAt (level + 1) v h.1).spacedMember k).newline (level + 1)
    have h := (Lexes.mark (c := ',') (fun _ => rfl) hmember).append
      (lexes_prettyMembers level ms h.2) fun rest _ => ends_prettyMembers level ms rest
    simpa only [prettyMembers, ofMembers, List.cons_append, List.append_assoc] using h

end

end Token

end HistoryTree.Json
