import HistoryTree.Json.Numeral
import HistoryTree.Json.QuotedString

/-!
# Tokens

A document is cut into tokens at the blanks between them.  Numbers and strings are kept
as a `Scan`: what they read as, and whether they may be passed over unread.  The list of
tokens ends at the first lexeme that cannot even be passed over.
-/

namespace HistoryTree.Json

/-- A lexeme: its content, and the defect met in passing over it. -/
structure Scan (α : Type) where
  content : Except Defect α
  passed : Option Defect

/-- A lexeme without defect. -/
def Scan.of {α : Type} (a : α) : Scan α := ⟨.ok a, none⟩

/-- A lexeme that is nothing but a defect. -/
def Scan.broken {α : Type} (d : Defect) : Scan α := ⟨.error d, some d⟩

inductive Token where
  | openArray | closeArray | openObject | closeObject | comma | colon
  | null
  | bool (b : Bool)
  | number (n : Scan Number)
  | string (s : Scan String)
  /-- A word that is cut short or misspelt. -/
  | garbled (d : Defect)
  /-- A symbol that begins no token. -/
  | stray

namespace Token

/-- The symbol is a blank of the grammar. -/
def isSpace (s : Option Char) : Bool :=
  s = some ' ' || s = some '\n' || s = some '\t' || s = some '\r'

/-- The token `t` if the text starts with the word `word`, which ends its name. -/
def word (t : Token) : (word : List Char) → Symbols → Token × Symbols
  | [], s => (t, s)
  | _ :: _, [] => (garbled .truncated, [])
  | c :: cs, x :: rest => if x = some c then word t cs rest else (garbled .malformed, [])

/-- A number that starts the text; one that is not well formed cannot be passed over. -/
def numberAt (s : Symbols) : Token × Symbols :=
  match Numeral.read s with
  | .ok (n, rest) => (number ⟨n.value, none⟩, rest)
  | .error d => (number ⟨.error d, some .malformed⟩, [])

/-- A string whose opening quote is already read. -/
def stringAt (s : Symbols) : Token × Symbols :=
  let content := (QuotedString.read s).map fun p => String.ofList p.1
  match QuotedString.pass s with
  | .ok rest => (string ⟨content, none⟩, rest)
  | .error d => (string ⟨content, some d⟩, [])

/-- The token that starts with a symbol which is not blank, and what follows it. -/
def next (s : Option Char) (rest : Symbols) : Token × Symbols :=
  match s with
  | some '[' => (openArray, rest)
  | some ']' => (closeArray, rest)
  | some '\x7b' => (openObject, rest)
  | some '\x7d' => (closeObject, rest)
  | some ',' => (comma, rest)
  | some ':' => (colon, rest)
  | some 'n' => word null ['u', 'l', 'l'] rest
  | some 't' => word (bool true) ['r', 'u', 'e'] rest
  | some 'f' => word (bool false) ['a', 'l', 's', 'e'] rest
  | some '"' => stringAt rest
  | some c => if c = '-' ∨ Text.isDigit c then numberAt (some c :: rest) else (stray, [])
  | none => (stray, [])

theorem length_word (t : Token) (cs : List Char) (s : Symbols) :
    (word t cs s).2.length ≤ s.length := by
  fun_induction word t cs s with
  | case1 => simp
  | case2 => simp
  | case3 c cs rest ih => simp; omega
  | case4 => simp

theorem length_numberAt (s : Symbols) : (numberAt s).2.length ≤ s.length - 1 := by
  rw [numberAt]
  split
  · rename_i n rest h
    have := Numeral.length_read h
    simp
    omega
  · simp

theorem length_stringAt (s : Symbols) : (stringAt s).2.length ≤ s.length := by
  simp only [stringAt]
  split
  · rename_i rest h
    have := QuotedString.length_pass h
    simp
    omega
  · simp

theorem length_next (s : Option Char) (rest : Symbols) :
    (next s rest).2.length ≤ rest.length := by
  rw [next.eq_def]
  split <;> try simp
  · exact length_word ..
  · exact length_word ..
  · exact length_word ..
  · exact length_stringAt rest
  · split
    · simpa using length_numberAt (some _ :: rest)
    · simp

/-- The tokens of a document. -/
def tokens : Symbols → List Token
  | [] => []
  | s :: rest =>
    if isSpace s then tokens rest
    else
      have := length_next s rest
      (next s rest).1 :: tokens (next s rest).2
termination_by s => s.length
decreasing_by all_goals simp; try omega

end Token

end HistoryTree.Json
