import HistoryTree.Json.Tree
import HistoryTree.Json.Value

/-!
# Reading typed values

A reader goes through a tree in order and stops at the first thing that does not fit.
Containers may be nested up to `maxLevels` deep, and a reader is given the number of
levels that are left; what is passed over has no such limit.
-/

namespace HistoryTree.Json

/-- A way to read a value from a tree, with the number of containers that may still be opened. -/
abbrev Reader (α : Type) := (levels : Nat) → Tree → Except Failure α

/-- The greatest depth of nested containers that is read. -/
def maxLevels : Nat := 127

/-- A defect met in reading. -/
def defect {α : Type} (d : Defect) : Except Failure α := .error (.defect d)

/-- A mismatch met in reading. -/
def mismatch {α : Type} (m : Mismatch) : Except Failure α := .error (.mismatch m)

/-- The content of a lexeme. -/
def Scan.get {α : Type} (s : Scan α) : Except Failure α :=
  match s.content with
  | .ok a => .ok a
  | .error d => defect d

/-- A container ends well. -/
def Ending.check : Ending → Except Failure Unit
  | .closed => .ok ()
  | .stopped d => defect d

namespace Tree

/-- What the tree is, for a message. -/
def found : Tree → Except Failure Found
  | null => .ok .null
  | bool b => .ok (.bool b)
  | number n => n.get.map .number
  | string s => s.get.map .string
  | array _ _ => .ok .sequence
  | object _ _ => .ok .map
  | garbled d => defect d
  | hole d => defect d

/-- The tree is not what was expected. -/
def refuse {α : Type} (expected : String) (t : Tree) : Except Failure α :=
  match t.found with
  | .ok f => mismatch (.wrongType f expected)
  | .error e => .error e

end Tree

namespace Reader

open Json.Tree

/-! ## Scalars -/

/-- A text. -/
def text : Reader String
  | _, .string s => s.get
  | _, t => t.refuse "a string"

/-- A number as an integer of 64 bits. -/
def toInt64 : Number → Except Failure Int64
  | .integer n =>
    if Int64.minValue.toInt ≤ n ∧ n ≤ Int64.maxValue.toInt then .ok (Int64.ofInt n)
    else mismatch (.outOfRange n "i64")
  | .real x => mismatch (.wrongType (.number (.real x)) "i64")

/-- An integer of 64 bits. -/
def int64 : Reader Int64
  | _, .number n =>
    match n.get with
    | .ok v => toInt64 v
    | .error e => .error e
  | _, t => t.refuse "i64"

/-- A value, or null for none. -/
def optional {α : Type} (r : Reader α) : Reader (Option α)
  | _, .null => .ok none
  | levels, t => (r levels t).map some

/-! ## Lists -/

/-- The items of an array with this ending. -/
def items {α : Type} (item : Tree → Except Failure α) (ending : Ending) :
    List Tree → Except Failure (List α)
  | [] => ending.check.map fun _ => []
  | t :: ts =>
    match item t with
    | .error e => .error e
    | .ok a =>
      match items item ending ts with
      | .error e => .error e
      | .ok as => .ok (a :: as)

/-- A list of values. -/
def list {α : Type} (r : Reader α) : Reader (List α)
  | 0, .array _ _ => defect .malformed
  | levels + 1, .array ts ending => items (r levels) ending ts
  | _, t => t.refuse "a sequence"

/-! ## Names out of a fixed list -/

/-- The value of a name. -/
def named {α : Type} (known : List (String × α)) (name : String) : Except Failure α :=
  match known.lookup name with
  | some a => .ok a
  | none => mismatch (.unknownVariant name (known.map (·.1)))

/-- A name, for a message about names. -/
def identifier (t : Tree) : Except Failure String :=
  match t with
  | .string s => s.get
  | t => t.refuse "variant identifier"

/-- A value that is null. -/
def unit (t : Tree) : Except Failure Unit :=
  match t with
  | .null => .ok ()
  | t => t.refuse "unit"

/-- One of the known names, as a string or as the only key of an object whose value is null. -/
def variant {α : Type} (known : List (String × α)) : Reader α
  | _, .string s => s.get.bind (named known)
  | 0, .object _ _ => defect .malformed
  | _ + 1, .object [] .closed => defect .malformed
  | _ + 1, .object [] (.stopped d) => defect d
  | _ + 1, .object ((k, v) :: more) ending => do
      let a ← k.get.bind (named known)
      unit v
      if more.isEmpty then ending.check else defect .malformed
      return a
  | _, .hole d => defect d
  | _, _ => defect .malformed

/-! ## Values of any kind -/

/-- The members of an object with this ending. -/
def members {α : Type} (value : Tree → Except Failure α) (ending : Ending) :
    List (Scan String × Tree) → Except Failure (List (String × α))
  | [] => ending.check.map fun _ => []
  | (k, t) :: ms =>
    match k.get with
    | .error e => .error e
    | .ok name =>
      match value t with
      | .error e => .error e
      | .ok a =>
        match members value ending ms with
        | .error e => .error e
        | .ok as => .ok ((name, a) :: as)

/-- Any value without defect. -/
def any : Reader Value
  | _, .null => .ok .null
  | _, .bool b => .ok (.bool b)
  | _, .number n => n.get.map .number
  | _, .string s => s.get.map .string
  | 0, .array _ _ => defect .malformed
  | 0, .object _ _ => defect .malformed
  | levels + 1, .array ts ending => (items (any levels) ending ts).map .array
  | levels + 1, .object ms ending => (members (any levels) ending ms).map .object
  | _, .garbled d => defect d
  | _, .hole d => defect d

/-- A value that is passed over. -/
def skip (t : Tree) : Except Failure Unit :=
  match t.pass with
  | none => .ok ()
  | some d => defect d

/-! ## Documents -/

/-- The value of a whole document, behind which only blanks may follow. -/
def decode {α : Type} (r : Reader α) (document : Symbols) : Except Failure α :=
  let (tree, rest) := Tree.ofTokens (Token.tokens document)
  match r maxLevels tree with
  | .error e => .error e
  | .ok a => if rest.isEmpty then .ok a else defect .malformed

/-- The value of a document given as a string. -/
def decodeString {α : Type} (r : Reader α) (document : String) : Except Failure α :=
  decode r (Symbols.ofString document)

end Reader

end HistoryTree.Json
