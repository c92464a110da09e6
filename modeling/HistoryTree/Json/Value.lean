import HistoryTree.Json.QuotedString

/-!
# Values and their written form

A value without defect, with the members of an object in order and with repetitions.  It
is written in one line without blanks (`compact`) or over several lines with an
indentation of two blanks per level (`pretty`).
-/

namespace HistoryTree.Json

inductive Value where
  | null
  | bool (b : Bool)
  | number (n : Number)
  | string (s : String)
  | array (items : List Value)
  | object (members : List (String × Value))
  deriving Repr

namespace Value

/-- A whole number as a value. -/
def int (n : Int) : Value := number (.integer n)

/-- The written form of a number. -/
def numberChars : Number → List Char
  | .integer n => Text.decimalInt n
  | .real x => x.text.toList

/-- The written form of a truth value. -/
def boolChars (b : Bool) : List Char :=
  if b then ['t', 'r', 'u', 'e'] else ['f', 'a', 'l', 's', 'e']

/-! ## One line -/

mutual

/-- The written form without blanks. -/
def compact : Value → List Char
  | null => ['n', 'u', 'l', 'l']
  | bool b => boolChars b
  | number n => numberChars n
  | string s => QuotedString.write s.toList
  | array [] => ['[', ']']
  | array (v :: vs) => '[' :: compact v ++ compactItems vs
  | object [] => ['\x7b', '\x7d']
  | object ((k, v) :: ms) =>
    '\x7b' :: QuotedString.write k.toList ++ ':' :: compact v ++ compactMembers ms

/-- The items behind the first one, and the end of the array. -/
def compactItems : List Value → List Char
  | [] => [']']
  | v :: vs => ',' :: compact v ++ compactItems vs

/-- The members behind the first one, and the end of the object. -/
def compactMembers : List (String × Value) → List Char
  | [] => ['\x7d']
  | (k, v) :: ms => ',' :: QuotedString.write k.toList ++ ':' :: compact v ++ compactMembers ms

end

/-! ## Several lines -/

/-- A line end and the indentation of a level. -/
def newline (level : Nat) : List Char := '\n' :: List.replicate (2 * level) ' '

mutual

/-- The written form over several lines, for a value at a level of nesting. -/
def prettyAt (level : Nat) : Value → List Char
  | null => ['n', 'u', 'l', 'l']
  | bool b => boolChars b
  | number n => numberChars n
  | string s => QuotedString.write s.toList
  | array [] => ['[', ']']
  | array (v :: vs) =>
    '[' :: newline (level + 1) ++ prettyAt (level + 1) v ++ prettyItems level vs
  | object [] => ['\x7b', '\x7d']
  | object ((k, v) :: ms) =>
    '\x7b' :: newline (level + 1) ++ QuotedString.write k.toList ++ [':', ' ']
      ++ prettyAt (level + 1) v ++ prettyMembers level ms

/-- The items behind the first one, and the end of the array. -/
def prettyItems (level : Nat) : List Value → List Char
  | [] => newline level ++ [']']
  | v :: vs => ',' :: newline (level + 1) ++ prettyAt (level + 1) v ++ prettyItems level vs

/-- The members behind the first one, and the end of the object. -/
def prettyMembers (level : Nat) : List (String × Value) → List Char
  | [] => newline level ++ ['\x7d']
  | (k, v) :: ms =>
    ',' :: newline (level + 1) ++ QuotedString.write k.toList ++ [':', ' ']
      ++ prettyAt (level + 1) v ++ prettyMembers level ms

end

/-- The written form over several lines. -/
def pretty (v : Value) : List Char := prettyAt 0 v

/-- The compact form as a string. -/
def text (v : Value) : String := String.ofList v.compact

/-- The indented form as a string. -/
def prettyText (v : Value) : String := String.ofList v.pretty

/-- What the value is, for a message. -/
def found : Value → Found
  | null => .null
  | bool b => .bool b
  | number n => .number n
  | string s => .string s
  | array _ => .sequence
  | object _ => .map

/-- The value of the first member with a key. -/
def get? (key : String) : Value → Option Value
  | object members => members.lookup key
  | _ => none

end Value

end HistoryTree.Json
