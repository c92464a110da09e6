import HistoryTree.Event.Codec
import HistoryTree.Source.FileTree
import HistoryTree.Source.Reading

/-!
# Histories in a directory

The history of a run is the file `<execution id>/<run id>.json` below a root.  An id must be
the name of a single entry (`idFault?_eq_none_iff`), so that no path leads out of the root.
-/

namespace HistoryTree.Directory

/-- What is wrong with an id that is to name a file. -/
def idFault? (id : String) : Option IdFault :=
  if id = "" then some .empty
  else if id = "." ∨ id = ".." then some .relative
  else if '/' ∈ id.toList ∨ '\\' ∈ id.toList then some .separator
  else if '\x00' ∈ id.toList then some .nul
  else none

/-- An id names a single entry exactly when it is not empty, is not one of the two names of
directories, and holds neither a separator nor NUL. -/
theorem idFault?_eq_none_iff {id : String} :
    idFault? id = none ↔ id ≠ "" ∧ id ≠ "." ∧ id ≠ ".." ∧
      '/' ∉ id.toList ∧ '\\' ∉ id.toList ∧ '\x00' ∉ id.toList := by
  rw [idFault?]
  split
  · simp_all
  · split
    · rename_i h
      rcases h with rfl | rfl <;> simp
    · split
      · rename_i h
        rcases h with h | h <;> simp [h]
      · split <;> simp_all

/-- A path with one more name.  A name that begins with a separator is a path from the top, which
takes the place of the path. -/
def join (path name : String) : String :=
  if name.toList.head? = some '/' then name
  else if path = "" ∨ path.toList.getLast? = some '/' then path ++ name
  else path ++ "/" ++ name

theorem join_of_not_mem {path name : String} (h : '/' ∉ name.toList) : join path name =
    if path = "" ∨ path.toList.getLast? = some '/' then path ++ name else path ++ "/" ++ name :=
  if_neg fun hhead => h (List.mem_of_mem_head? hhead)

/-- The path of the history of an execution, below a root. -/
def historyPath (root : String) (x : Execution) : Except SourceError String :=
  match (idFault? x.id).or (idFault? x.run) with
  | some fault => .error (.invalidId x fault)
  | none => .ok (join (join root x.id) (x.run ++ ".json"))

/-- The reading of the history of an execution that a file leads to. -/
def reading (x : Execution) : FileRead → Reading
  | .missing => .refused (.notFound x)
  | .failed fault => .refused (.file x fault)
  | .document d =>
    match Json.Reader.decode History.reader d with
    | .ok h => .whole h
    | .error f => .refused (.undecodable f)

/-- Answers a request by reading one file. -/
def fetch {m : Type → Type} [Monad m] (read : String → m FileRead) (root : String)
    (x : Execution) : m Reading :=
  match historyPath root x with
  | .error e => return .refused e
  | .ok path => return reading x (← read path)

end HistoryTree.Directory
