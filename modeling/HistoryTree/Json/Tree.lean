import HistoryTree.Json.Token

/-!
# What reading a document meets

A `Tree` is a document as far as it can be passed over: where reading has to stop, the
containers that are still open end with the defect, and the missing value is a hole.  So
a typed reader that goes through the tree in order meets a wrong value before a defect
that stands behind it.  `Tree.ofTokens` builds the tree in one pass over the tokens,
keeping the open containers on a stack.
-/

namespace HistoryTree.Json

/-- How a container ends. -/
inductive Ending where
  | closed
  /-- Reading stopped inside the container. -/
  | stopped (d : Defect)
  deriving DecidableEq, Repr

inductive Tree where
  | null
  | bool (b : Bool)
  | number (n : Scan Number)
  | string (s : Scan String)
  | array (items : List Tree) (ending : Ending)
  | object (members : List (Scan String × Tree)) (ending : Ending)
  /-- A word that is cut short or misspelt. -/
  | garbled (d : Defect)
  /-- Nothing that begins a value stands here. -/
  | hole (d : Defect)

namespace Tree

/-! ## Passing over -/

mutual

/-- The defect met in passing over a value, whose content does not matter. -/
def pass : Tree → Option Defect
  | null => none
  | bool _ => none
  | number n => n.passed
  | string s => s.passed
  | array items ending => passItems ending items
  | object members ending => passMembers ending members
  | garbled d => some d
  | hole d => some d

/-- The defect met in passing over the items of an array with this ending. -/
def passItems (ending : Ending) : List Tree → Option Defect
  | [] =>
    match ending with
    | .closed => none
    | .stopped d => some d
  | t :: ts => (pass t).or (passItems ending ts)

/-- The defect met in passing over the members of an object with this ending. -/
def passMembers (ending : Ending) : List (Scan String × Tree) → Option Defect
  | [] =>
    match ending with
    | .closed => none
    | .stopped d => some d
  | (k, t) :: ms => k.passed.or ((pass t).or (passMembers ending ms))

end

/-! ## Building -/

/-- A container that waits for a value: an array with the items before it, or an object with the
members before it and the key; the last one first. -/
inductive Frame where
  | inArray (items : List Tree)
  | inMember (members : List (Scan String × Tree)) (key : Scan String)

/-- The tree of a value after which reading stops. -/
def abandon (d : Defect) (t : Tree) : List Frame → Tree
  | [] => t
  | .inArray items :: stack => abandon d (array (t :: items).reverse (.stopped d)) stack
  | .inMember members key :: stack =>
    abandon d (object ((key, t) :: members).reverse (.stopped d)) stack

/-- What reading expects next, with the open containers. -/
inductive Expecting where
  | value (stack : List Frame)
  | firstItem (stack : List Frame)
  | afterItem (items : List Tree) (stack : List Frame)
  | firstKey (stack : List Frame)
  | nextKey (members : List (Scan String × Tree)) (stack : List Frame)
  | colon (members : List (Scan String × Tree)) (key : Scan String) (stack : List Frame)
  | afterMember (members : List (Scan String × Tree)) (stack : List Frame)

/-- The result of one token. -/
inductive Step where
  | more (e : Expecting)
  /-- The value of the document is complete. -/
  | complete (t : Tree)
  /-- Reading stops. -/
  | stopped (t : Tree)

/-- A complete value in the container that waited for it. -/
def put (t : Tree) : List Frame → Step
  | [] => .complete t
  | .inArray items :: stack => .more (.afterItem (t :: items) stack)
  | .inMember members key :: stack => .more (.afterMember ((key, t) :: members) stack)

/-- A leaf in the container that waited for it; reading stops where it cannot be passed over. -/
def putLeaf (t : Tree) (stack : List Frame) : Step :=
  match t.pass with
  | none => put t stack
  | some d => .stopped (abandon d t stack)

/-- A token where a value is expected. -/
def valueStep (stack : List Frame) : Token → Step
  | .null => put null stack
  | .bool b => put (bool b) stack
  | .number n => putLeaf (number n) stack
  | .string s => putLeaf (string s) stack
  | .openArray => .more (.firstItem stack)
  | .openObject => .more (.firstKey stack)
  | .garbled d => .stopped (abandon d (garbled d) stack)
  | .closeArray | .closeObject | .comma | .colon | .stray =>
    .stopped (abandon .malformed (hole .malformed) stack)

/-- An object in which reading stops at a key, with the members before it. -/
def stoppedAt (key : Scan String) (d : Defect) (members : List (Scan String × Tree)) : Tree :=
  object ((key, hole d) :: members).reverse (.stopped d)

/-- A token where a key is expected.  Reading stops at anything but a string. -/
def keyStep (members : List (Scan String × Tree)) (stack : List Frame) : Token → Step
  | .string s =>
    match s.passed with
    | none => .more (.colon members s stack)
    | some d => .stopped (abandon d (stoppedAt s d members) stack)
  | _ => .stopped (abandon .malformed (stoppedAt (.broken .malformed) .malformed members) stack)

/-- One token of a document. -/
def step : Expecting → Token → Step
  | .value stack, t => valueStep stack t
  | .firstItem stack, .closeArray => put (array [] .closed) stack
  | .firstItem stack, t => valueStep (.inArray [] :: stack) t
  | .afterItem items stack, .comma => .more (.value (.inArray items :: stack))
  | .afterItem items stack, .closeArray => put (array items.reverse .closed) stack
  | .afterItem items stack, _ =>
    .stopped (abandon .malformed (array items.reverse (.stopped .malformed)) stack)
  | .firstKey stack, .closeObject => put (object [] .closed) stack
  | .firstKey stack, t => keyStep [] stack t
  | .nextKey members stack, t => keyStep members stack t
  | .colon members key stack, .colon => .more (.value (.inMember members key :: stack))
  | .colon members key stack, _ =>
    .stopped (abandon .malformed (hole .malformed) (.inMember members key :: stack))
  | .afterMember members stack, .comma => .more (.nextKey members stack)
  | .afterMember members stack, .closeObject => put (object members.reverse .closed) stack
  | .afterMember members stack, _ =>
    .stopped (abandon .malformed (object members.reverse (.stopped .malformed)) stack)

/-- The tree of a document that ends where something is still expected. -/
def cut : Expecting → Tree
  | .value stack => abandon .truncated (hole .truncated) stack
  | .firstItem stack => abandon .truncated (array [] (.stopped .truncated)) stack
  | .afterItem items stack =>
    abandon .truncated (array items.reverse (.stopped .truncated)) stack
  | .firstKey stack => abandon .truncated (object [] (.stopped .truncated)) stack
  | .nextKey members stack =>
    abandon .truncated (stoppedAt (.broken .truncated) .truncated members) stack
  | .colon members key stack =>
    abandon .truncated (hole .truncated) (.inMember members key :: stack)
  | .afterMember members stack =>
    abandon .truncated (object members.reverse (.stopped .truncated)) stack

/-- The tree that the tokens complete, and the tokens behind it. -/
def run (e : Expecting) : List Token → Tree × List Token
  | [] => (cut e, [])
  | t :: ts =>
    match step e t with
    | .more e' => run e' ts
    | .complete tree => (tree, ts)
    | .stopped tree => (tree, [])

/-- The tree of a list of tokens, and the tokens behind it. -/
def ofTokens (ts : List Token) : Tree × List Token := run (.value []) ts

end Tree

end HistoryTree.Json
