import HistoryTree.Source.Reading
import HistoryTree.Source.Reply
import HistoryTree.Url.Parser

/-!
# Histories from a service

A service hands out the history of a run at
`<base>/executions/<execution id>/runs/<run id>/history`, page by page.  The first page is
requested at once, and each further page with the token of the page before it, once all events
before it were delivered.  A page whose URL is too long is not requested, and fails.
-/

namespace HistoryTree

/-- A service at a base URL. -/
structure Service where
  /-- The URL as it is given. -/
  base : String
  /-- The greatest number of events per page, if one is asked for. -/
  pageSize : Option Nat
  deriving DecidableEq, Repr

/-- What stands between the requests and the service: the replies to come, and the requests made.
Once the replies are used up, every request is told that nothing is there. -/
structure Network where
  /-- The replies in order; none where the service cannot be reached. -/
  replies : Option (List Reply)
  requests : List Url
  deriving DecidableEq, Repr

/-- The replies that are still to come. -/
def Network.left (n : Network) : List Reply := n.replies.getD []

/-- A history that arrives page by page. -/
structure PageStream where
  /-- The URL of the history. -/
  address : Url
  execution : Execution
  /-- The events at hand, which came with the last page. -/
  ready : History
  /-- The token for the page behind them, if there is one. -/
  token : Option String
  deriving DecidableEq, Repr

/-- What asking a stream for more leads to. -/
inductive Delivery where
  | event (e : HistoryEvent) (rest : PageStream)
  /-- A page arrived, and its events are at hand now. -/
  | page (rest : PageStream)
  | broke (e : SourceError)
  | complete
  deriving DecidableEq, Repr

namespace Service

/-- The base URL without the slashes at its end, which do not count. -/
def root (s : Service) : String := String.ofList (Text.trimEnd '/' s.base.toList)

/-- The URL of the history of an execution, in which each id is a segment. -/
def historyUrl (s : Service) (x : Execution) : Except SourceError Url :=
  match Url.parse s.root.toList with
  | .error e => .error (.invalidBaseUrl s.root (.unreadable e))
  | .ok u =>
    match u.extend? (["executions", x.id, "runs", x.run, "history"].map String.toList) with
    | none => .error (.invalidBaseUrl s.root .opaquePath)
    | some u => .ok u

/-- The URL of a page: the first one, or the one that a token asks for. -/
def pageUrl (s : Service) (history : Url) (token : Option String) : Url :=
  let u := match token with
    | none => history
    | some t => history.withParameter "page_token" t
  match s.pageSize with
  | none => u
  | some n => u.withParameter "page_size" (String.ofList (Text.decimal n))

/-- The page that a reply holds; without a reply, nothing is there. -/
def pageOf (x : Execution) : Option Reply → Except SourceError HistoryPage
  | some r => r.page x
  | none => .error (.notFound x)

/-- Requests a page of the history of an execution; a URL that is too long is not sent. -/
def request (s : Service) (address : Url) (x : Execution) (token : Option String) :
    StateM Network (Except SourceError HistoryPage) := fun n =>
  if !address.isRequestable then (.error (.exchange .unsupportedScheme), n)
  else if (s.pageUrl address token).isTooLong then (.error (.exchange .tooLong), n)
  else
    match n.replies with
    | none => (.error (.exchange .unreachable), n)
    | some replies =>
      (pageOf x replies.head?, ⟨some replies.tail, n.requests ++ [s.pageUrl address token]⟩)

/-- The stream of a history, of which the first page is requested at once. -/
def stream (s : Service) (x : Execution) : StateM Network (Except SourceError PageStream) :=
  fun n =>
    match s.historyUrl x with
    | .error e => (.error e, n)
    | .ok address =>
      match s.request address x none n with
      | (.error e, n') => (.error e, n')
      | (.ok p, n') => (.ok ⟨address, x, p.events, p.next?⟩, n')

/-- Asks a stream for more.  A page is requested only when no event is at hand. -/
def next (s : Service) (p : PageStream) : StateM Network Delivery := fun n =>
  match p.ready with
  | e :: rest => (.event e { p with ready := rest }, n)
  | [] =>
    match p.token with
    | none => (.complete, n)
    | some t =>
      match s.request p.address p.execution (some t) n with
      | (.error e, n') => (.broke e, n')
      | (.ok page, n') => (.page { p with ready := page.events, token := page.next? }, n')

/-! ## Reading a stream to its end -/

section

variable {s : Service} {p rest : PageStream} {n n' : Network} {x : Execution} {e : HistoryEvent}

/-- A page that arrives uses up a reply. -/
theorem left_lt_of_request {address : Url} {token : Option String} {page : HistoryPage}
    (h : s.request address x token n = (.ok page, n')) : n'.left.length < n.left.length := by
  rw [request] at h
  split at h
  · cases h
  split at h
  · cases h
  · cases hreplies : n.replies with
    | none =>
      rw [hreplies] at h
      cases h
    | some replies =>
      rw [hreplies] at h
      cases replies with
      | nil => cases h
      | cons r rs =>
        obtain ⟨-, rfl⟩ := Prod.mk.inj h
        simp [Network.left, hreplies]

theorem of_next_eq_event (h : s.next p n = (.event e rest, n')) :
    n' = n ∧ p.ready = e :: rest.ready := by
  rw [next] at h
  split at h
  · rename_i hready
    cases h
    exact ⟨rfl, hready⟩
  · split at h
    · cases h
    · split at h
      · cases h
      · cases h

theorem left_lt_of_next (h : s.next p n = (.page rest, n')) : n'.left.length < n.left.length := by
  rw [next] at h
  split at h
  · cases h
  · split at h
    · cases h
    · split at h
      · cases h
      · rename_i hrequest
        cases h
        exact left_lt_of_request hrequest

end

/-- The events that a stream still delivers, and what follows them. -/
def drain (s : Service) (p : PageStream) (n : Network) : (History × StreamEnd) × Network :=
  match _h : s.next p n with
  | (.event e rest, n') =>
    let ((events, ending), n'') := drain s rest n'
    ((e :: events, ending), n'')
  | (.page rest, n') => drain s rest n'
  | (.broke e, n') => (([], .broke e), n')
  | (.complete, n') => (([], .complete), n')
termination_by (n.left.length, p.ready.length)
decreasing_by
  · obtain ⟨rfl, hready⟩ := of_next_eq_event _h
    rw [hready]
    exact .right _ (Nat.lt_add_one _)
  · exact .left _ _ (left_lt_of_next _h)

/-- Answers a request for a history with its whole stream. -/
def fetch (s : Service) : Source Network := fun x n =>
  match s.stream x n with
  | (.error e, n') => (.refused e, n')
  | (.ok p, n') =>
    let ((events, ending), n'') := s.drain p n'
    (.streamed events ending, n'')

end Service

end HistoryTree
