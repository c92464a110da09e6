import HistoryTree.Json.Reader
import HistoryTree.Proofs.Json.Lexing

/-!
# What reading a written value meets

A written value is read as the tree of the value: its parts in order, without defect
(`Tree.ofTokens_of_lexes`).  So a typed reader gives on a written document what it gives on the
tree of the value, whichever layout the document has (`Reader.decodeString_text`,
`Reader.decodeString_prettyText`).  A reader of any value gives the value back, as long as it
nests no deeper than the levels allow (`Reader.any_ofValue`).
-/

namespace HistoryTree.Json

/-! ## The tree of a value -/

mutual

/-- The tree of a value without defect. -/
def Tree.ofValue : Value → Tree
  | .null => .null
  | .bool b => .bool b
  | .number n => .number (.of n)
  | .string s => .string (.of s)
  | .array vs => .array (ofValues vs) .closed
  | .object ms => .object (ofMembers ms) .closed

/-- The trees of values. -/
def Tree.ofValues : List Value → List Tree
  | [] => []
  | v :: vs => ofValue v :: ofValues vs

/-- The members of an object without defect. -/
def Tree.ofMembers : List (String × Value) → List (Scan String × Tree)
  | [] => []
  | (k, v) :: ms => (.of k, ofValue v) :: ofMembers ms

end

namespace Tree

theorem ofValues_eq_map (vs : List Value) : ofValues vs = vs.map ofValue := by
  induction vs with
  | nil => rfl
  | cons v vs ih => rw [ofValues, ih, List.map_cons]

theorem ofMembers_eq_map (ms : List (String × Value)) :
    ofMembers ms = ms.map fun (k, v) => (.of k, ofValue v) := by
  induction ms with
  | nil => rfl
  | cons m ms ih => rw [ofMembers, ih, List.map_cons]

/-! ## Building it -/

/-- Where reading goes on after a step. -/
def resume : Step → List Token → Tree × List Token
  | .more e, ts => run e ts
  | .complete t, ts => (t, ts)
  | .stopped t, _ => (t, [])

theorem run_cons (e : Expecting) (t : Token) (ts : List Token) :
    run e (t :: ts) = resume (step e t) ts := by
  rw [run]
  cases step e t <;> rfl

/-- The first item of an array is read like any other. -/
theorem run_firstItem (stack : List Frame) (v : Value) (ts : List Token) :
    run (.firstItem stack) (Token.ofValue v ++ ts)
      = run (.value (.inArray [] :: stack)) (Token.ofValue v ++ ts) := by
  cases v with
  | array vs => cases vs <;> rfl
  | object ms => cases ms <;> rfl
  | _ => rfl

mutual

/-- The tokens of a value put its tree into the container that waits for it. -/
theorem run_ofValue : ∀ (v : Value) (stack : List Frame) (ts : List Token),
    run (.value stack) (Token.ofValue v ++ ts) = resume (put (ofValue v) stack) ts
  | .null, _, _ => run_cons ..
  | .bool _, _, _ => run_cons ..
  | .number _, _, _ => run_cons ..
  | .string _, _, _ => run_cons ..
  | .array [], _, _ => by
    rw [Token.ofValue, List.cons_append, run_cons]
    exact run_cons ..
  | .array (v :: vs), stack, ts => by
    rw [Token.ofValue, List.cons_append, List.cons_append, List.append_assoc, run_cons]
    show run (.firstItem stack) _ = _
    rw [run_firstItem, run_ofValue v]
    exact run_ofItems vs [ofValue v] stack ts
  | .object [], _, _ => by
    rw [Token.ofValue, List.cons_append, run_cons]
    exact run_cons ..
  | .object ((k, v) :: ms), stack, ts => by
    simp only [Token.ofValue, List.cons_append, List.append_assoc]
    rw [run_cons]
    show run (.firstKey stack) _ = _
    rw [run_cons]
    show run (.colon [] (.of k) stack) _ = _
    rw [run_cons]
    show run (.value (.inMember [] (.of k) :: stack)) _ = _
    rw [run_ofValue v]
    exact run_ofMembers ms [(.of k, ofValue v)] stack ts

theorem run_ofItems : ∀ (vs : List Value) (items : List Tree) (stack : List Frame)
    (ts : List Token), run (.afterItem items stack) (Token.ofItems vs ++ ts)
      = resume (put (.array (items.reverse ++ ofValues vs) .closed) stack) ts
  | [], items, _, _ => by
    rw [ofValues, List.append_nil]
    exact run_cons ..
  | v :: vs, items, stack, ts => by
    simp only [Token.ofItems, List.cons_append, List.append_assoc]
    rw [run_cons]
    show run (.value (.inArray items :: stack)) _ = _
    rw [run_ofValue v]
    show run (.afterItem (ofValue v :: items) stack) _ = _
    rw [run_ofItems vs, List.reverse_cons, List.append_assoc]
    rfl

theorem run_ofMembers : ∀ (ms : List (String × Value)) (members : List (Scan String × Tree))
    (stack : List Frame) (ts : List Token),
    run (.afterMember members stack) (Token.ofMembers ms ++ ts)
      = resume (put (.object (members.reverse ++ ofMembers ms) .closed) stack) ts
  | [], members, _, _ => by
    rw [ofMembers, List.append_nil]
    exact run_cons ..
  | (k, v) :: ms, members, stack, ts => by
    simp only [Token.ofMembers, List.cons_append, List.append_assoc]
    rw [run_cons]
    show run (.nextKey members stack) _ = _
    rw [run_cons]
    show run (.colon members (.of k) stack) _ = _
    rw [run_cons]
    show run (.value (.inMember members (.of k) :: stack)) _ = _
    rw [run_ofValue v]
    show run (.afterMember ((.of k, ofValue v) :: members) stack) _ = _
    rw [run_ofMembers ms, List.reverse_cons, List.append_assoc]
    rfl

end

/-- The tokens of a value make up its tree, and nothing is left. -/
theorem ofTokens_ofValue (v : Value) : ofTokens (Token.ofValue v) = (ofValue v, []) := by
  have h := run_ofValue v [] []
  rwa [List.append_nil] at h

end Tree

/-! ## Levels -/

mutual

/-- How many containers are nested into each other. -/
def Value.nesting : Value → Nat
  | .array vs => nestingOfItems vs + 1
  | .object ms => nestingOfMembers ms + 1
  | .null | .bool _ | .number _ | .string _ => 0

/-- The greatest nesting of values. -/
def Value.nestingOfItems : List Value → Nat
  | [] => 0
  | v :: vs => max (nesting v) (nestingOfItems vs)

/-- The greatest nesting of the values of members. -/
def Value.nestingOfMembers : List (String × Value) → Nat
  | [] => 0
  | (_, v) :: ms => max (nesting v) (nestingOfMembers ms)

end

namespace Reader

/-! ## Values of any kind -/

mutual

/-- A value is read back as it is, if there are levels enough. -/
theorem any_ofValue : ∀ (v : Value) (levels : Nat), v.nesting ≤ levels →
    any levels (Tree.ofValue v) = .ok v
  | .null, levels, _ => by cases levels <;> rfl
  | .bool _, levels, _ => by cases levels <;> rfl
  | .number _, levels, _ => by cases levels <;> rfl
  | .string _, levels, _ => by cases levels <;> rfl
  | .array vs, levels + 1, h => by
    rw [Tree.ofValue, any, items_ofValues vs levels (Nat.le_of_succ_le_succ h)]
    rfl
  | .object ms, levels + 1, h => by
    rw [Tree.ofValue, any, members_ofMembers ms levels (Nat.le_of_succ_le_succ h)]
    rfl

theorem items_ofValues : ∀ (vs : List Value) (levels : Nat), Value.nestingOfItems vs ≤ levels →
    items (any levels) .closed (Tree.ofValues vs) = .ok vs
  | [], _, _ => rfl
  | v :: vs, levels, h => by
    obtain ⟨hv, hvs⟩ := Nat.max_le.1 h
    rw [Tree.ofValues, items, any_ofValue v levels hv, items_ofValues vs levels hvs]

theorem members_ofMembers : ∀ (ms : List (String × Value)) (levels : Nat),
    Value.nestingOfMembers ms ≤ levels →
    members (any levels) .closed (Tree.ofMembers ms) = .ok ms
  | [], _, _ => rfl
  | (k, v) :: ms, levels, h => by
    obtain ⟨hv, hms⟩ := Nat.max_le.1 h
    rw [Tree.ofMembers, members, any_ofValue v levels hv, members_ofMembers ms levels hms]
    rfl

end

/-! ## Integers, texts and lists -/

theorem toInt64_toInt (i : Int64) : toInt64 (.integer i.toInt) = .ok i := by
  rw [toInt64, if_pos ⟨Int64.minValue_le_toInt i, Int64.toInt_le i⟩, Int64.ofInt_toInt]

theorem int64_ofValue (levels : Nat) (i : Int64) :
    int64 levels (Tree.ofValue (.int i.toInt)) = .ok i :=
  toInt64_toInt i

variable {α : Type} {r : Reader α} {levels : Nat} {v : Value}

/-- A list is read as its elements are. -/
theorem list_ofValue {toValue : α → Value} {asRead : α → α}
    (h : ∀ a, r levels (Tree.ofValue (toValue a)) = .ok (asRead a)) (as : List α) :
    list r (levels + 1) (Tree.ofValue (.array (as.map toValue))) = .ok (as.map asRead) := by
  rw [Tree.ofValue, Tree.ofValues_eq_map, list]
  induction as with
  | nil => rfl
  | cons a as ih => simp only [List.map_cons, items, h, ih]

theorem text_ofValue (levels : Nat) (s : String) :
    text levels (Tree.ofValue (.string s)) = .ok s := by
  cases levels <;> rfl

/-! ## As far as the levels reach -/

section within

variable {α β : Type}

/-- What reading gives where `a` takes `nesting` levels and so many are left. -/
def within (nesting levels : Nat) (a : α) : Except Failure α :=
  if nesting ≤ levels then .ok a else defect .malformed

theorem within_succ (nesting levels : Nat) (a : α) :
    within (nesting + 1) (levels + 1) a = within nesting levels a := by
  simp only [within, Nat.add_le_add_iff_right]

theorem map_within (f : α → β) (nesting levels : Nat) (a : α) :
    (within nesting levels a).map f = within nesting levels (f a) := by
  rw [within, within]
  split <;> rfl

/-- Reading items stops at the first that nests too deep. -/
theorem items_within {item : Tree → Except Failure α} {t : Tree} {ts : List Tree} {a : α}
    {as : List α} {n m levels : Nat} (hfirst : item t = within n levels a)
    (hothers : items item .closed ts = within m levels as) :
    items item .closed (t :: ts) = within (max n m) levels (a :: as) := by
  rw [items, hfirst, hothers]
  simp only [within, Nat.max_le]
  by_cases hn : n ≤ levels
  · by_cases hm : m ≤ levels
    · simp [hn, hm]
    · simp [hn, hm, defect]
  · simp [hn, defect]

end within

/-! ## Whole documents -/

/-- A document is read as the tree of the value that it was written from. -/
theorem ofTokens_of_lexes {s : List Char} (h : Token.Lexes s (Token.ofValue v)) :
    Tree.ofTokens (Token.tokens (Symbols.ofString (String.ofList s))) = (Tree.ofValue v, []) := by
  have htokens := h [] trivial
  rw [Token.tokens, List.append_nil, List.append_nil] at htokens
  rw [Symbols.ofString, String.toList_ofList, htokens, Tree.ofTokens_ofValue]

/-- A text with the tokens of a value is decoded as the tree of this value. -/
theorem decodeString_of_lexes (r : Reader α) {s : List Char}
    (h : Token.Lexes s (Token.ofValue v)) :
    decodeString r (String.ofList s) = r maxLevels (Tree.ofValue v) := by
  rw [decodeString, decode, ofTokens_of_lexes h]
  dsimp only
  cases r maxLevels (Tree.ofValue v) <;> rfl

/-- Reading a value that is written in one line. -/
theorem decodeString_text (r : Reader α) (hv : v.Integral) :
    decodeString r v.text = r maxLevels (Tree.ofValue v) :=
  decodeString_of_lexes r (Token.lexes_compact v hv)

/-- Reading a value that is written over several lines. -/
theorem decodeString_prettyText (r : Reader α) (hv : v.Integral) :
    decodeString r v.prettyText = r maxLevels (Tree.ofValue v) :=
  decodeString_of_lexes r (Token.lexes_prettyAt 0 v hv)

/-- A line end behind the value does not count. -/
theorem decodeString_prettyText_lineEnd (r : Reader α) (hv : v.Integral) :
    decodeString r (v.prettyText ++ "\n") = r maxLevels (Tree.ofValue v) := by
  have hline : v.prettyText ++ "\n" = String.ofList (v.pretty ++ ['\n']) := by
    rw [String.ofList_append]
    rfl
  rw [hline]
  refine decodeString_of_lexes r ?_
  have h := (Token.lexes_prettyAt 0 v hv).append (Token.lexes_nil.blank (c := '\n') (by decide))
    fun _ _ => rfl
  rwa [List.append_nil] at h

end Reader

end HistoryTree.Json
