/-!
# Why a text is no URL

Each cause has the text that reports it.
-/

namespace HistoryTree

/-- Why a text is no URL. -/
inductive UrlError where
  /-- The text does not begin with a scheme. -/
  | relative
  | emptyHost
  | invalidPort
  | invalidIpv4
  | invalidIpv6
  /-- A host name holds what no domain name may hold. -/
  | invalidDomain
  /-- The host of a scheme without rules of its own holds a delimiter. -/
  | invalidHostCharacter
  deriving DecidableEq, Repr

/-- The text that reports the cause. -/
def UrlError.message : UrlError → String
  | relative => "relative URL without a base"
  | emptyHost => "empty host"
  | invalidPort => "invalid port number"
  | invalidIpv4 => "invalid IPv4 address"
  | invalidIpv6 => "invalid IPv6 address"
  | invalidDomain => "invalid international domain name"
  | invalidHostCharacter => "invalid domain character"

end HistoryTree
