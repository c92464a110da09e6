import HistoryTree.Domain.Basic
import HistoryTree.Text.Quoted
import HistoryTree.Url.Error
import HistoryTree.Url.Percent

/-!
# Hosts

The host of a special scheme is a domain name, an IPv4 address in one of several notations,
or an IPv6 address between brackets.  In other schemes a host that is no IPv6 address is any
text without delimiters.
-/

namespace HistoryTree

/-- Where the resources of a URL are found. -/
inductive Host where
  | domain (name : List Char)
  | ipv4 (address : Nat)
  /-- The eight groups of sixteen bits of an address. -/
  | ipv6 (groups : List Nat)
  deriving DecidableEq, Repr

namespace Host

open Url (hexValue?)

/-- The number that digits of a base stand for, if all of them are digits of it. -/
def number? (base : Nat) (s : List Char) : Option Nat :=
  s.foldlM (fun n c => do
    let d ← hexValue? c
    if d < base then some (base * n + d) else none) 0

/-! ## IPv4 -/

/-- A part of an IPv4 address: decimal, octal after a zero, or hexadecimal after `0x`. -/
def ipv4Part? : List Char → Option Nat
  | [] => none
  | '0' :: 'x' :: rest => number? 16 rest
  | '0' :: 'X' :: rest => number? 16 rest
  | ['0'] => some 0
  | '0' :: rest => number? 8 rest
  | s => number? 10 s

/-- The parts between dots, of which an empty last one does not count. -/
def dotted (s : List Char) : List (List Char) :=
  let parts := s.splitOn '.'
  if parts.getLast? = some [] then parts.dropLast else parts

/-- Whether a name has to be an IPv4 address, because its last part is a number. -/
def endsInNumber (s : List Char) : Bool :=
  match (dotted s).getLast? with
  | none => false
  | some last => (last ≠ [] && last.all Text.isDigit) || (ipv4Part? last).isSome

/-- The address of which all parts but the last one are single bytes, and the last one fills
what remains. -/
def ipv4OfParts? (parts : List Nat) : Option Nat :=
  match parts.getLast? with
  | none => none
  | some last =>
    let bytes := parts.dropLast
    if 3 < bytes.length || bytes.any (255 < ·) || Nat.pow 256 (4 - bytes.length) ≤ last then none
    else some (bytes.foldr (fun b (n, scale) => (n + b * scale, scale * 256))
      (last, Nat.pow 256 (4 - bytes.length))).1

/-- The address that dotted numbers stand for. -/
def ipv4? (s : List Char) : Option Nat := ((dotted s).mapM ipv4Part?).bind ipv4OfParts?

/-! ## IPv6 -/

/-- A group of up to four hexadecimal digits. -/
def ipv6Group? (s : List Char) : Option Nat :=
  if s.isEmpty || 4 < s.length then none else number? 16 s

/-- A decimal number below 256 without leading zeros. -/
def byte? (s : List Char) : Option Nat :=
  match number? 10 s with
  | some n => if n < 256 && Text.decimal n = s then some n else none
  | none => none

/-- The last group of an address, or the last two groups in the notation of IPv4. -/
def lastGroups? (s : List Char) : Option (List Nat) :=
  if s.contains '.' then
    match s.splitOn '.' with
    | [a, b, c, d] => do
      return [256 * (← byte? a) + (← byte? b), 256 * (← byte? c) + (← byte? d)]
    | _ => none
  else (ipv6Group? s).map ([·])

/-- The groups between colons. -/
def groups? (parts : List (List Char)) : Option (List Nat) :=
  match parts.getLast? with
  | none => some []
  | some last => do
    let front ← parts.dropLast.mapM ipv6Group?
    return front ++ (← lastGroups? last)

/-- The parts between colons; none in an empty text. -/
def colonParts (s : List Char) : List (List Char) := if s.isEmpty then [] else s.splitOn ':'

/-- The texts around the first pair of colons. -/
def splitGap? : List Char → Option (List Char × List Char)
  | ':' :: ':' :: rest => some ([], rest)
  | c :: rest => (splitGap? rest).map fun (a, b) => (c :: a, b)
  | [] => none

/-- The groups of an address, in which one pair of colons may stand for groups of zeros. -/
def ipv6? (s : List Char) : Option (List Nat) :=
  match splitGap? s with
  | none => (groups? (colonParts s)).filter (·.length = 8)
  | some (before, after) => do
    let a ← (colonParts before).mapM ipv6Group?
    let b ← groups? (colonParts after)
    if a.length + b.length < 8 then some (a ++ List.replicate (8 - a.length - b.length) 0 ++ b)
    else none

/-! ## Reading a host -/

/-- The characters that no domain name may hold. -/
def isForbidden (c : Char) : Bool :=
  c.toNat ≤ 0x20 || c.toNat = 0x7F || "%#/:<>?@[\\]^|".toList.contains c

/-- The host of an address between brackets. -/
def ofBrackets (inside : List Char) : Except UrlError Host :=
  if inside.getLast? = some ']' then
    match ipv6? inside.dropLast with
    | some groups => .ok (.ipv6 groups)
    | none => .error .invalidIpv6
  else .error .invalidIpv6

/-- The host of a name in ASCII. -/
def ofName (name : List Char) : Except UrlError Host :=
  if name.any isForbidden then .error .invalidDomain
  else if name.isEmpty then .error .emptyHost
  else if endsInNumber name then
    match ipv4? name with
    | some address => .ok (.ipv4 address)
    | none => .error .invalidIpv4
  else .ok (.domain name)

/-- The host of a special scheme. -/
def parse : List Char → Except UrlError Host
  | '[' :: inside => ofBrackets inside
  | s =>
    match (Symbols.ofBytes (Url.percentDecode s)).chars?.bind Domain.toAscii? with
    | none => .error .invalidDomain
    | some name => ofName name

/-- The characters that the host of another scheme may not hold. -/
def isDelimiter (c : Char) : Bool :=
  c.toNat = 0 || "\t\n\r #/:<>?@[\\]^|".toList.contains c

/-- The host of a scheme that is not special. -/
def parseOpaque : List Char → Except UrlError Host
  | '[' :: inside => ofBrackets inside
  | s =>
    if s.any isDelimiter then .error .invalidHostCharacter
    else .ok (.domain (Url.percentEncode Url.isControl s))

/-! ## Requests -/

/-- Whether a request can name the host, in which not every character of a domain is allowed. -/
def isRequestable : Host → Bool
  | domain name => !name.any fun c => "\"\x60\x7b\x7d".toList.contains c
  | ipv4 _ => true
  | ipv6 _ => true

/-! ## Writing a host -/

/-- The four bytes of an address. -/
def ipv4Bytes (address : Nat) : List Nat :=
  [address / 0x1000000 % 256, address / 0x10000 % 256, address / 0x100 % 256, address % 256]

/-- The length of the first run of at least `least` zeros, and the groups before it. -/
def zeroRun? (least : Nat) : List Nat → Option (List Nat × Nat)
  | [] => none
  | n :: rest =>
    let run := (n :: rest).takeWhile (· = 0)
    if least ≤ run.length then some ([], run.length)
    else (zeroRun? least rest).map fun (before, length) => (n :: before, length)

/-- The groups of an address in hexadecimal, the first of its longest runs of at least two zeros
left out. -/
def ipv6Chars (groups : List Nat) : List Char :=
  let hex (gs : List Nat) : List Char := [':'].intercalate (gs.map Text.hexadecimal)
  match [8, 7, 6, 5, 4, 3, 2].findSome? fun least => zeroRun? least groups with
  | some (before, length) =>
    hex before ++ [':', ':'] ++ hex (groups.drop (before.length + length))
  | none => hex groups

/-- The text form of a host. -/
def chars : Host → List Char
  | domain name => name
  | ipv4 address => ['.'].intercalate ((ipv4Bytes address).map Text.decimal)
  | ipv6 groups => '[' :: ipv6Chars groups ++ [']']

end Host

end HistoryTree
