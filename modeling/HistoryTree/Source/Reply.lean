import HistoryTree.Source.Error
import HistoryTree.Source.Page

/-!
# Replies of a service

A reply has a status code and a body.  It is a page of a history only if the code reports
success and the body is one; `Reply.page` says what it is otherwise.
-/

namespace HistoryTree

/-- The answer to one request. -/
structure Reply where
  status : Nat
  body : Symbols
  deriving DecidableEq, Repr

namespace Reply

/-- The standard phrases for the codes that do not report success. -/
def phrases : List (Nat × String) :=
  [(100, "Continue"), (101, "Switching Protocols"), (102, "Processing"),
    (300, "Multiple Choices"), (301, "Moved Permanently"), (302, "Found"), (303, "See Other"),
    (304, "Not Modified"), (305, "Use Proxy"), (307, "Temporary Redirect"),
    (308, "Permanent Redirect"),
    (400, "Bad Request"), (401, "Unauthorized"), (402, "Payment Required"), (403, "Forbidden"),
    (404, "Not Found"), (405, "Method Not Allowed"), (406, "Not Acceptable"),
    (407, "Proxy Authentication Required"), (408, "Request Timeout"), (409, "Conflict"),
    (410, "Gone"), (411, "Length Required"), (412, "Precondition Failed"),
    (413, "Payload Too Large"), (414, "URI Too Long"), (415, "Unsupported Media Type"),
    (416, "Range Not Satisfiable"), (417, "Expectation Failed"), (418, "I'm a teapot"),
    (421, "Misdirected Request"), (422, "Unprocessable Entity"), (423, "Locked"),
    (424, "Failed Dependency"), (425, "Too Early"), (426, "Upgrade Required"),
    (428, "Precondition Required"), (429, "Too Many Requests"),
    (431, "Request Header Fields Too Large"), (451, "Unavailable For Legal Reasons"),
    (500, "Internal Server Error"), (501, "Not Implemented"), (502, "Bad Gateway"),
    (503, "Service Unavailable"), (504, "Gateway Timeout"),
    (505, "HTTP Version Not Supported"), (506, "Variant Also Negotiates"),
    (507, "Insufficient Storage"), (508, "Loop Detected"), (510, "Not Extended"),
    (511, "Network Authentication Required")]

/-- A code with its phrase. -/
def statusText (status : Nat) : String :=
  String.ofList (Text.decimal status) ++ " "
    ++ (phrases.lookup status).getD "<unknown status code>"

/-- Whether a code reports success. -/
def isSuccess (r : Reply) : Bool := 200 ≤ r.status && r.status < 300

/-- The page of the history of `x` that a reply holds. -/
def page (x : Execution) (r : Reply) : Except SourceError HistoryPage :=
  if r.status = 404 then .error (.notFound x)
  else if !r.isSuccess then .error (.unexpectedResponse x ("HTTP " ++ statusText r.status))
  else
    match Json.Reader.decode HistoryPage.reader r.body with
    | .ok p => .ok p
    | .error f => .error (.exchange (.unreadable f))

end Reply

end HistoryTree
