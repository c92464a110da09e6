import HistoryTree.Text.Split
import HistoryTree.Url.Basic

/-!
# Reading URLs

A URL is read part by part: scheme, authority (user, host and port), path, query and
fragment.
Blanks and control characters around the text, and tabs and line ends within it, do not
count.  A special scheme may be followed by any number of slashes, and a backslash counts
as a slash there.
-/

namespace HistoryTree.Url

/-- Whether a character ends the path or the query. -/
def isQueryOrFragment (c : Char) : Bool := c = '?' || c = '#'

/-- Whether a character separates segments. -/
def isSlash (special : Bool) (c : Char) : Bool := c = '/' || (special && c = '\\')

/-- Whether a character ends the authority. -/
def endsAuthority (special : Bool) (c : Char) : Bool := isSlash special c || isQueryOrFragment c

/-- The text without blanks and control characters around it, and without tabs and line ends. -/
def cleaned (s : List Char) : List Char :=
  let blank (c : Char) : Bool := c.toNat ≤ 0x20
  let trimmed := ((s.dropWhile blank).reverse.dropWhile blank).reverse
  trimmed.filter fun c => c ≠ '\t' && c ≠ '\n' && c ≠ '\r'

/-! ## The scheme -/

/-- The rest of a scheme in lower case, and what stands behind its colon. -/
def schemeRest? : List Char → Option (List Char × List Char)
  | [] => none
  | ':' :: rest => some ([], rest)
  | c :: rest =>
    if c.isAlphanum || c = '+' || c = '-' || c = '.' then
      (schemeRest? rest).map fun (scheme, rest) => (c.toLower :: scheme, rest)
    else none

/-- The scheme in lower case, and what stands behind its colon. -/
def scheme? (s : List Char) : Option (List Char × List Char) :=
  match s with
  | [] => none
  | c :: _ => if c.isAlpha then schemeRest? s else none

/-! ## The path, the query and the fragment -/

/-- The query behind a path, up to the fragment. -/
def query? (special : Bool) : List Char → Option (List Char)
  | '?' :: rest => some (percentEncode (escapedInQuery special) (rest.takeWhile (· ≠ '#')))
  | _ => none

/-- The fragment, which is what follows the first number sign. -/
def fragment? (s : List Char) : Option (List Char) :=
  match s.dropWhile (· ≠ '#') with
  | [] => none
  | _ :: rest => some (percentEncode escapedInFragment rest)

/-- The segments of a path, of which only the first slash stands before a segment. -/
def segments (scheme s : List Char) : Path :=
  let special := isSpecial scheme
  let behindSlash := match s with
    | c :: rest => if isSlash special c then rest else s
    | [] => s
  let parts := (behindSlash.splitOnP (isSlash special)).map (percentEncode escapedInPath)
  let p := Path.resolve (isFile scheme) [] parts
  if isFile scheme then p.trimStart else p

/-- The URL of a hierarchical path with its query and its fragment.  Only a scheme that is not special may have no
segment at all. -/
def ofHierarchy (scheme : List Char) (host : Option Host) (port : Option Nat) (s : List Char) :
    Url :=
  let path := s.takeWhile (!isQueryOrFragment ·)
  { scheme, host, port
    path := .segments
      (if path.isEmpty && !isSpecial scheme then [] else segments scheme path)
    query := query? (isSpecial scheme) (s.dropWhile (!isQueryOrFragment ·))
    fragment := fragment? s }

/-- The URL of a plain path with its query and its fragment. -/
def ofPlain (scheme s : List Char) : Url :=
  { scheme, host := none, port := none
    path := .plain (percentEncode isControl (s.takeWhile (!isQueryOrFragment ·)))
    query := query? false (s.dropWhile (!isQueryOrFragment ·))
    fragment := fragment? s }

/-! ## The authority -/

/-- The text of a host, which ends before a colon outside of brackets, and the rest. -/
def spanHost (inBrackets : Bool) : List Char → List Char × List Char
  | [] => ([], [])
  | c :: rest =>
    if c = ':' && !inBrackets then ([], c :: rest)
    else
      let inBrackets := if c = '[' then true else if c = ']' then false else inBrackets
      let (host, rest) := spanHost inBrackets rest
      (c :: host, rest)

/-- The port behind a host, unless it is the one that the scheme uses anyway, and the rest. -/
def readPort (scheme : List Char) : List Char → Except UrlError (Option Nat × List Char)
  | ':' :: s =>
    let (digits, rest) := s.span Text.isDigit
    let n := Text.valueOf digits
    if UInt16.size ≤ n ∨ rest.head?.any (· ≠ '\\') then .error .invalidPort
    else .ok (if digits.isEmpty ∨ defaultPort? scheme = some n then none else some n, rest)
  | s => .ok (none, s)

/-- The part of an authority behind the name of a user, and whether there is such a name. -/
def withoutUser (authority : List Char) : List Char × Bool :=
  match Text.splitLast? '@' authority with
  | none => (authority, false)
  | some (user, rest) => (rest, user ≠ [] && user ≠ [':'])

/-- The URL of a scheme, from its authority on.  A host may be empty in a scheme that is not
special, where neither a user nor a port is given. -/
def ofAuthority (scheme s : List Char) : Except UrlError Url := do
  let special := isSpecial scheme
  let (authority, tail) := s.span (!endsAuthority special ·)
  let (hostAndPort, named) := withoutUser authority
  let (hostText, portText) := spanHost false hostAndPort
  let refused := special || named || !portText.isEmpty || (authority = ['@'] && !tail.isEmpty)
  if hostText.isEmpty && refused then throw .emptyHost
  let host ← if special then Host.parse hostText else Host.parseOpaque hostText
  let (port, rest) ← readPort scheme portText
  return ofHierarchy scheme (some host) port (rest ++ tail)

/-- The URL of a file, from what stands behind its scheme on.  Two slashes may be followed by a
host, which is dropped where it is this one, and is no host where it names a drive. -/
def ofFile (s : List Char) : Except UrlError Url :=
  let here : Host := .domain []
  let url (host : Host) (path : List Char) := ofHierarchy "file".toList (some host) none path
  match s with
  | a :: b :: rest =>
    if isSlash true a && isSlash true b then
      let (hostText, tail) := rest.span (!endsAuthority true ·)
      if hostText.isEmpty || isDrive hostText then .ok (url here rest)
      else (Host.parse hostText).map fun host =>
        url (if host = .domain "localhost".toList then here else host) tail
    else .ok (url here s)
  | _ => .ok (url here s)

/-! ## The whole URL -/

/-- The URL of a text. -/
def parse (s : List Char) : Except UrlError Url :=
  match scheme? (cleaned s) with
  | none => .error .relative
  | some (scheme, rest) =>
    if isFile scheme then ofFile rest
    else if isSpecial scheme then ofAuthority scheme (rest.dropWhile (isSlash true))
    else
      match rest with
      | '/' :: '/' :: rest => ofAuthority scheme rest
      | '/' :: _ => .ok (ofHierarchy scheme none none rest)
      | _ => .ok (ofPlain scheme rest)

end HistoryTree.Url
