import HistoryTree.Execution
import HistoryTree.Json.Failure
import HistoryTree.Url.Error

/-!
# Why a history cannot be fetched

The causes for which a source does not deliver the history of an execution, each with the
text that reports it.
-/

namespace HistoryTree

/-- What is wrong with an id that is to name a file. -/
inductive IdFault where
  | empty
  /-- The id is one of the names for a directory itself and the one above it. -/
  | relative
  | separator
  | nul
  deriving DecidableEq, Repr

/-- The text that reports a fault of an id. -/
def IdFault.message : IdFault → String
  | empty => "empty id"
  | relative => "relative path component"
  | separator => "contains a path separator"
  | nul => "contains a NUL byte"

/-- Why the file at a path cannot be read, other than that there is none. -/
inductive FileFault where
  | isDirectory
  /-- The path leads through a plain file. -/
  | notADirectory
  | nameTooLong
  deriving DecidableEq, Repr

/-- The text that reports a fault of a file. -/
def FileFault.message : FileFault → String
  | isDirectory => "Is a directory"
  | notADirectory => "Not a directory"
  | nameTooLong => "File name too long"

/-- Why a base URL cannot address histories. -/
inductive BaseUrlFault where
  | unreadable (e : UrlError)
  /-- The URL has no hierarchical path. -/
  | opaquePath
  deriving DecidableEq, Repr

/-- The text that reports a fault of a base URL. -/
def BaseUrlFault.message : BaseUrlFault → String
  | unreadable e => e.message
  | opaquePath => "URL cannot carry a path"

/-- Why an exchange with a service failed. -/
inductive ExchangeFault where
  /-- Requests are made to `http` and `https` URLs only. -/
  | unsupportedScheme
  /-- The URL is too long for a request. -/
  | tooLong
  | unreachable
  /-- The service answered, but not with a page of a history. -/
  | unreadable (f : Json.Failure)
  deriving DecidableEq, Repr

/-- The text that reports a failed exchange. -/
def ExchangeFault.message : ExchangeFault → String
  | unsupportedScheme => "URL scheme is not allowed"
  | tooLong => "Parsed Url is not a valid Uri"
  | unreachable => "error sending request"
  | unreadable _ => "error decoding response body"

/-- Why a source does not deliver a history. -/
inductive SourceError where
  /-- The source has no history for the execution. -/
  | notFound (x : Execution)
  | file (x : Execution) (fault : FileFault)
  | exchange (fault : ExchangeFault)
  /-- The service answered with something other than a page. -/
  | unexpectedResponse (x : Execution) (detail : String)
  | invalidId (x : Execution) (fault : IdFault)
  | invalidBaseUrl (base : String) (fault : BaseUrlFault)
  | undecodable (f : Json.Failure)
  /-- The whole history did not arrive in time. -/
  | timeout (x : Execution)
  | cancelled
  deriving DecidableEq, Repr

/-- The text that reports why a history is not delivered. -/
def SourceError.message : SourceError → String
  | notFound x => "history not found: " ++ x.text
  | file x fault => "I/O error reading history for " ++ x.text ++ ": " ++ fault.message
  | exchange fault => "HTTP error: " ++ fault.message
  | unexpectedResponse x detail => "unexpected response for " ++ x.text ++ ": " ++ detail
  | invalidId x fault => "invalid history id " ++ x.text ++ ": " ++ fault.message
  | invalidBaseUrl base fault => "invalid base URL '" ++ base ++ "': " ++ fault.message
  | undecodable f => "failed to decode history: " ++ f.message
  | timeout x => "timed out fetching history for " ++ x.text
  | cancelled => "history fetch cancelled"

end HistoryTree
