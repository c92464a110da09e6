import HistoryTree.Url.Percent

/-!
# Paths of segments

A path is a list of segments, each written behind a slash.  The segments `.` and `..` do not
stay: the first is left out, and the second takes the segment before it away, unless that
one names a drive.  `Path.push` appends a text as one segment.
-/

namespace HistoryTree.Url

/-- The segments of a path, escaped. -/
abbrev Path := List (List Char)

/-- Whether a segment stands for the place itself. -/
def isDot (s : List Char) : Bool := s.map Char.toLower ∈ [".", "%2e"].map String.toList

/-- Whether a segment stands for the place above. -/
def isDoubleDot (s : List Char) : Bool :=
  s.map Char.toLower ∈ ["..", ".%2e", "%2e.", "%2e%2e"].map String.toList

/-- Whether a segment names a drive: a letter and a colon or a bar. -/
def isDrive : List Char → Bool
  | [c, d] => c.isAlpha && (d = ':' || d = '|')
  | _ => false

/-- The name of a drive with a colon. -/
def driveName : List Char → List Char
  | [c, '|'] => [c, ':']
  | s => s

namespace Path

/-- The path above. -/
def parent (p : Path) : Path :=
  match p.getLast? with
  | some s => if isDrive s then p else p.dropLast
  | none => []

/-- The path without the empty segments at its start; a single empty one stays. -/
def trimStart (p : Path) : Path :=
  match p.dropWhile List.isEmpty with
  | [] => [[]]
  | s :: rest => s :: rest

/-- The path of escaped segments as they are given, behind those that are already resolved. -/
def resolve (inFile : Bool) : Path → List (List Char) → Path
  | done, [] => done
  | done, [s] =>
    if isDoubleDot s then done.parent ++ [[]]
    else if isDot s then done ++ [[]]
    else if inFile && done.isEmpty && isDrive s then [driveName s]
    else done ++ [s]
  | done, s :: rest =>
    if isDoubleDot s then resolve inFile done.parent rest
    else if isDot s then resolve inFile done rest
    else if inFile && done.isEmpty && isDrive s then resolve inFile [driveName s] rest
    else resolve inFile (done ++ [s]) rest

/-- The path without an empty last segment, unless it is the only one. -/
def popIfEmpty (p : Path) : Path :=
  if 1 < p.length ∧ p.getLast? = some [] then p.dropLast else p

/-- The path with a text as one more segment.  The texts `.` and `..` are left out, and tabs and
line ends within a text are dropped. -/
def push (special inFile : Bool) (p : Path) (s : List Char) : Path :=
  if s = ['.'] ∨ s = ['.', '.'] then p
  else
    let kept := s.filter fun c => c ≠ '\t' && c ≠ '\n' && c ≠ '\r'
    let front := if p = [[]] then [] else p
    let p' := resolve inFile front [percentEncode (escapedInSegment special) kept]
    if inFile then p'.trimStart else p'

/-- The text form of a path. -/
def chars (p : Path) : List Char := p.flatMap ('/' :: ·)

end Path

end HistoryTree.Url
