import HistoryTree.Binary64.Shortest
import HistoryTree.Text.Quoted

/-!
# Why a document cannot be read

A document is unreadable where it breaks the grammar, or it is well formed up to some
place and holds the wrong thing there.  Each cause of the second kind has a text.
-/

namespace HistoryTree.Json

/-- A number of a document: an integer of at most 64 bits, or a fraction. -/
inductive Number where
  | integer (n : Int)
  | real (x : Binary64)
  deriving DecidableEq, Repr

/-- How a document breaks the grammar. -/
inductive Defect where
  /-- The document ends too early. -/
  | truncated
  /-- Something stands where the grammar does not allow it. -/
  | malformed
  deriving DecidableEq, Repr

/-- What was met in place of something else. -/
inductive Found where
  | null
  | bool (b : Bool)
  | number (n : Number)
  | string (s : String)
  | sequence
  | map
  deriving DecidableEq, Repr

/-- A well-formed part of a document that holds the wrong thing. -/
inductive Mismatch where
  | wrongType (found : Found) (expected : String)
  | outOfRange (n : Int) (expected : String)
  | wrongLength (length : Nat) (expected : String)
  | missingField (key : String)
  | duplicateField (key : String)
  | unknownVariant (name : String) (known : List String)
  /-- A text whose content was refused, with the reason. -/
  | refusedText (reason : String)
  deriving DecidableEq, Repr

/-- The reason why a document was not read. -/
inductive Failure where
  | defect (d : Defect)
  | mismatch (m : Mismatch)
  deriving DecidableEq, Repr

/-- A name between backquotes. -/
def ticked (s : String) : String := "\x60" ++ s ++ "\x60"

/-- An integer in decimal. -/
def integerText (n : Int) : String := String.ofList (Text.decimalInt n)

/-- A short description of what was met. -/
def Found.text : Found → String
  | null => "null"
  | bool b => "boolean " ++ ticked (if b then "true" else "false")
  | number (.integer n) => "integer " ++ ticked (integerText n)
  | number (.real x) => "floating point " ++ ticked x.text
  | string s => "string " ++ Text.quoted s
  | sequence => "sequence"
  | map => "map"

/-- The text that reports a mismatch. -/
def Mismatch.message : Mismatch → String
  | wrongType found expected => "invalid type: " ++ found.text ++ ", expected " ++ expected
  | outOfRange n expected =>
    "invalid value: integer " ++ ticked (integerText n) ++ ", expected " ++ expected
  | wrongLength length expected =>
    "invalid length " ++ integerText length ++ ", expected " ++ expected
  | missingField key => "missing field " ++ ticked key
  | duplicateField key => "duplicate field " ++ ticked key
  | unknownVariant name known =>
    "unknown variant " ++ ticked name ++ ", expected one of "
      ++ String.intercalate ", " (known.map ticked)
  | refusedText reason => reason

/-- The text that reports a failure. -/
def Failure.message : Failure → String
  | defect .truncated => "the document ends too early"
  | defect .malformed => "the document is malformed"
  | mismatch m => m.message

/-- A grammar defect as a failure. -/
instance : Coe Defect Failure := ⟨.defect⟩

/-- A mismatch as a failure. -/
instance : Coe Mismatch Failure := ⟨.mismatch⟩

end HistoryTree.Json
