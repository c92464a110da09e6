import HistoryTree.Json.Token
import HistoryTree.Source.Error
import HistoryTree.Text.Split

/-!
# Trees of files

Reading the file at a path, and a model of the tree that a path leads through: from the
root on, each name must belong to an entry of the directory reached so far.
-/

namespace HistoryTree

/-- What reading the file at a path leads to. -/
inductive FileRead where
  | document (d : Symbols)
  | missing
  | failed (fault : FileFault)
  deriving DecidableEq, Repr

/-- What stands at a place of a tree. -/
inductive FileEntry where
  | file (d : Symbols)
  | directory
  deriving DecidableEq, Repr

/-- The entries of a tree, each with the names that lead to it; the root is a directory. -/
abbrev FileTree := List (List String × FileEntry)

namespace FileTree

/-- The greatest length of a name in bytes. -/
def maxName : Nat := 255

/-- The length in bytes from which on a path is too long. -/
def pathLimit : Nat := 4096

/-- The names in a path. -/
def names (path : String) : List String :=
  (path.toList.splitOn '/').map String.ofList

/-- The tree with an entry at the place that names lead to, and with the directories on the way;
empty names do not count. -/
def add (t : FileTree) (names : List String) (e : FileEntry) : FileTree :=
  let place := names.filter (· ≠ "")
  (place, e) :: t ++ (List.range place.length).map fun n => (place.take n, FileEntry.directory)

/-- Reads what the rest of a path leads to, from a directory on. -/
def follow (t : FileTree) (here : List String) : List String → FileRead
  | [] => .failed .isDirectory
  | name :: rest =>
    if name = "" ∨ name = "." then follow t here rest
    else if name = ".." then follow t here.dropLast rest
    else if maxName < name.utf8ByteSize then .failed .nameTooLong
    else
      match t.lookup (here ++ [name]) with
      | none => .missing
      | some .directory => follow t (here ++ [name]) rest
      | some (.file d) => if rest.isEmpty then .document d else .failed .notADirectory

/-- Reads the file at a path. -/
def read (t : FileTree) (path : String) : FileRead :=
  if pathLimit ≤ path.utf8ByteSize then .failed .nameTooLong
  else if path.isEmpty then .missing
  else t.follow [] (names path)

end FileTree

end HistoryTree
