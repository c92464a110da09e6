import HistoryTree.Url.Host
import HistoryTree.Url.Path

/-!
# URLs

What a URL says about where to send a request: scheme, host, port, path and query.  No
request carries a fragment, but it counts for the length of a URL, and one that is too long
is not requested.  The name of a user is read and dropped.
-/

namespace HistoryTree

/-- What a URL names within its host. -/
inductive UrlPath where
  | segments (p : Url.Path)
  /-- A text without hierarchy. -/
  | plain (s : List Char)
  deriving DecidableEq, Repr

/-- The parts of a URL apart from its user. -/
structure Url where
  scheme : List Char
  host : Option Host
  port : Option Nat
  path : UrlPath
  query : Option (List Char)
  fragment : Option (List Char)
  deriving DecidableEq, Repr

namespace Url

/-- The schemes with rules of their own, each with its port. -/
def specialSchemes : List (List Char × Option Nat) :=
  [("http".toList, some 80), ("https".toList, some 443), ("ws".toList, some 80),
    ("wss".toList, some 443), ("ftp".toList, some 21), ("file".toList, none)]

/-- Whether a scheme has rules of its own. -/
def isSpecial (scheme : List Char) : Bool := (specialSchemes.lookup scheme).isSome

/-- Whether a scheme is the one of files. -/
def isFile (scheme : List Char) : Bool := scheme = "file".toList

/-- The port that a scheme uses where none is given. -/
def defaultPort? (scheme : List Char) : Option Nat := (specialSchemes.lookup scheme).join

/-- Whether requests can be made to the URL, as far as its scheme and its host go. -/
def isRequestable (u : Url) : Bool :=
  (u.scheme = "http".toList || u.scheme = "https".toList) && u.host.any Host.isRequestable

/-- The URL with texts as further segments of its path, each one a whole segment; none without
hierarchy. -/
def extend? (u : Url) (segments : List (List Char)) : Option Url :=
  match u.path with
  | .plain _ => none
  | .segments p =>
    some { u with
      path := .segments
        (segments.foldl (Path.push (isSpecial u.scheme) (isFile u.scheme)) p.popIfEmpty) }

/-- The URL with one more parameter at the end of its query. -/
def withParameter (u : Url) (key value : String) : Url :=
  let parameter := formEncode key.toList ++ '=' :: formEncode value.toList
  { u with
    query := some (match u.query with
      | none => parameter
      | some [] => parameter
      | some q => q ++ '&' :: parameter) }

/-- The characters of the text form without a fragment, as a request carries it. -/
def chars (u : Url) : List Char :=
  u.scheme ++ ':' ::
    (match u.host with
      | none => []
      | some h => '/' :: '/' :: h.chars)
    ++ (match u.port with
      | none => []
      | some n => ':' :: Text.decimal n)
    ++ (match u.path with
      | .segments p => p.chars
      | .plain s => s)
    ++ (match u.query with
      | none => []
      | some q => '?' :: q)

/-- The text form without a fragment. -/
def text (u : Url) : String := String.ofList u.chars

/-- The whole text form. -/
def fullText (u : Url) : String :=
  String.ofList (u.chars ++ match u.fragment with
    | none => []
    | some f => '#' :: f)

/-- The greatest length in bytes of a URL that is requested. -/
def maxLength : Nat := 65534

/-- Whether a URL is too long for a request. -/
def isTooLong (u : Url) : Bool := maxLength < u.fullText.utf8ByteSize

end Url

end HistoryTree
