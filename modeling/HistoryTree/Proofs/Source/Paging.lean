import HistoryTree.Proofs.Event.RoundTrip
import HistoryTree.Proofs.Source.Addresses
import HistoryTree.Proofs.Url.Parameters
import Mathlib.Data.Nat.Find

/-!
# Histories that arrive page by page

A service answers the requests for a history one after the other; once its replies are used up,
every request is told that nothing is there, and a request with a URL that is too long is never
made.  The pages that are read are those in front of the first one that names no following page or
does not arrive, with this one, and the events of all of them are delivered in order
(`Service.drain_streamAt`).  While a stream is read, it is always on one of these pages (`OnPage`):
so many requests were made, all events of the pages before were delivered, and the events of this
page were delivered or are at hand.
-/

namespace HistoryTree

/-! ## Where requests go -/

namespace Url

variable {u : Url}

theorem exists_segments_of_ofAuthority {scheme s : List Char} (h : ofAuthority scheme s = .ok u) :
    ∃ p, u.path = .segments p := by
  simp only [ofAuthority, bind, Except.bind, pure, Except.pure, throw, throwThe,
    MonadExceptOf.throw] at h
  repeat' split at h
  all_goals cases h
  all_goals exact ⟨_, rfl⟩

/-- A URL that requests can be made to has a path of segments. -/
theorem exists_segments_of_isRequestable {s : List Char} (h : parse s = .ok u)
    (hu : u.isRequestable = true) : ∃ p, u.path = .segments p := by
  rw [parse] at h
  split at h
  · cases h
  · rename_i scheme rest _
    split at h
    · obtain ⟨host, t, rfl⟩ := exists_of_ofFile h
      exact ⟨_, rfl⟩
    · split at h
      · exact exists_segments_of_ofAuthority h
      · rename_i hspecial
        split at h
        · exact exists_segments_of_ofAuthority h
        · cases h
          exact ⟨_, rfl⟩
        · cases h
          rw [isRequestable, ofPlain, Bool.and_eq_true] at hu
          cases hu.2

end Url

namespace Service

/-- The parameters of a request for a page, behind those of the base: the token of the page before
it, if there is one, and the greatest number of events, if one is asked for. -/
def pageParameters (s : Service) (token : Option String) : List (List UInt8 × List UInt8) :=
  token.toList.map (fun t => (Url.bytes "page_token".toList, Url.bytes t.toList)) ++
    s.pageSize.toList.map fun n => (Url.bytes "page_size".toList, Url.bytes (Text.decimal n))

/-- A request for a page goes to the URL of the history, with its parameters behind the query of
the base. -/
structure RequestsPage (s : Service) (u address : Url) (token : Option String) (url : Url) :
    Prop where
  place_eq : url = { address with query := url.query }
  query_front : u.query.getD [] <+: url.query.getD []
  parameters_eq : url.parameters = u.parameters ++ s.pageParameters token

/-- A parameter is put behind the query, which stays. -/
theorem query_front_withParameter (u : Url) (key value : String) :
    u.query.getD [] <+: (u.withParameter key value).query.getD [] := by
  rw [Url.withParameter]
  split
  · rename_i h
    rw [h]
    exact List.nil_prefix
  · rename_i h
    rw [h]
    exact List.nil_prefix
  · rename_i h
    rw [h]
    exact List.prefix_append _ _

/-- The requests for the pages of a history differ in their queries only. -/
theorem pageUrl_requestsPage (s : Service) {u address : Url} (h : address.query = u.query)
    (token : Option String) : s.RequestsPage u address token (s.pageUrl address token) := by
  have hparameters : address.parameters = u.parameters := by
    rw [Url.parameters, Url.parameters, h]
  have hfront : ∀ key value,
      u.query.getD [] <+: (address.withParameter key value).query.getD [] := by
    intro key value
    rw [← h]
    exact query_front_withParameter address key value
  cases token with
  | none =>
    cases hsize : s.pageSize with
    | none =>
      simp only [pageUrl, hsize]
      refine ⟨rfl, by simp only [h, List.prefix_rfl], ?_⟩
      simp [pageParameters, hsize, hparameters]
    | some n =>
      simp only [pageUrl, hsize]
      refine ⟨rfl, hfront _ _, ?_⟩
      simp [Url.parameters_withParameter, pageParameters, hsize, hparameters]
  | some t =>
    cases hsize : s.pageSize with
    | none =>
      simp only [pageUrl, hsize]
      refine ⟨rfl, hfront _ _, ?_⟩
      simp [Url.parameters_withParameter, pageParameters, hsize, hparameters]
    | some n =>
      simp only [pageUrl, hsize]
      refine ⟨rfl, (hfront _ _).trans (query_front_withParameter _ _ _), ?_⟩
      simp [Url.parameters_withParameter, pageParameters, hsize, hparameters]

/-- A page is asked for in vain with a token that is as long as a URL may be. -/
theorem isTooLong_pageUrl (s : Service) (address : Url) {t : String}
    (ht : Url.maxLength ≤ t.toList.length) : (s.pageUrl address (some t)).isTooLong = true := by
  have hlong : Url.maxLength < ((address.withParameter "page_token" t).query.getD []).length :=
    Nat.lt_of_le_of_lt ht (Url.length_lt_withParameter address "page_token" t)
  rw [pageUrl]
  cases s.pageSize with
  | none => exact Url.isTooLong_of_query hlong
  | some n =>
    have hfront := query_front_withParameter (address.withParameter "page_token" t) "page_size"
      (String.ofList (Text.decimal n))
    exact Url.isTooLong_of_query (Nat.lt_of_lt_of_le hlong hfront.length_le)

/-- A base that requests can be made to gives every execution a URL of the same kind. -/
theorem exists_historyUrl {s : Service} {u : Url} (hu : Url.parse s.root.toList = .ok u)
    (hurl : u.isRequestable = true) (x : Execution) :
    ∃ address, s.historyUrl x = .ok address ∧ address.query = u.query ∧
      address.isRequestable = true := by
  obtain ⟨p, hp⟩ := Url.exists_segments_of_isRequestable hu hurl
  obtain ⟨q, hq⟩ : ∃ q, s.historyUrl x = .ok { u with path := .segments q } := by
    simp only [historyUrl, hu, Url.extend?, hp]
    exact ⟨_, rfl⟩
  exact ⟨_, hq, rfl, hurl⟩

/-! ## What the replies say -/

section Pages

variable (s : Service) (address : Url) (x : Execution) (replies : List Reply)

/-- What comes of the request for the page of a number, counted from 0, with a token. -/
def answerTo (i : Nat) (token : Option String) : Except SourceError HistoryPage :=
  if (s.pageUrl address token).isTooLong then .error (.exchange .tooLong)
  else pageOf x replies[i]?

/-- The token that a page is requested with: the one of the page before it. -/
def tokenAt : Nat → Option String
  | 0 => none
  | i + 1 =>
    match s.answerTo address x replies i (tokenAt i) with
    | .ok p => p.next?
    | .error _ => none

/-- The URL of a page. -/
def urlAt (i : Nat) : Url := s.pageUrl address (s.tokenAt address x replies i)

/-- A page, or why it does not arrive. -/
def pageAt (i : Nat) : Except SourceError HistoryPage :=
  s.answerTo address x replies i (s.tokenAt address x replies i)

/-- The events of a page; none if it does not arrive. -/
def eventsAt (i : Nat) : History :=
  match s.pageAt address x replies i with
  | .ok p => p.events
  | .error _ => []

/-- The events of the first pages. -/
def eventsBefore (i : Nat) : History := (List.range i).flatMap (s.eventsAt address x replies)

/-- What follows the events of the last page. -/
def endingAt (i : Nat) : StreamEnd :=
  match s.pageAt address x replies i with
  | .ok _ => .complete
  | .error e => .broke e

/-- The number of requests that were made once a page was asked for.  The one for the page itself
is not made if its URL is too long. -/
def sentAt (i : Nat) : Nat := if (s.urlAt address x replies i).isTooLong then i else i + 1

/-- The last page that is read: the first one that names no following page. -/
def IsLast (last : Nat) : Prop :=
  (∀ i < last, ∃ t, s.tokenAt address x replies (i + 1) = some t) ∧
    s.tokenAt address x replies (last + 1) = none

variable {s address x replies} {i last : Nat}

theorem tokenAt_succ (i : Nat) : s.tokenAt address x replies (i + 1) =
    match s.pageAt address x replies i with
    | .ok p => p.next?
    | .error _ => none :=
  rfl

theorem eventsBefore_succ (i : Nat) : s.eventsBefore address x replies (i + 1)
    = s.eventsBefore address x replies i ++ s.eventsAt address x replies i := by
  rw [eventsBefore, List.range_succ, List.flatMap_append, List.flatMap_singleton, ← eventsBefore]

theorem pageAt_of_not_isTooLong (h : (s.urlAt address x replies i).isTooLong = false) :
    s.pageAt address x replies i = pageOf x replies[i]? := by
  rw [pageAt, answerTo, ← urlAt, h]
  rfl

/-- A page arrives only if it was requested. -/
theorem sentAt_of_pageAt {p : HistoryPage} (h : s.pageAt address x replies i = .ok p) :
    s.sentAt address x replies i = i + 1 := by
  rw [pageAt, answerTo, ← urlAt] at h
  rw [sentAt]
  split
  · rename_i hlong
    rw [if_pos hlong] at h
    cases h
  · rfl

/-- A page that is followed arrives. -/
theorem exists_pageAt_of_tokenAt {t : String} (h : s.tokenAt address x replies (i + 1) = some t) :
    ∃ p, s.pageAt address x replies i = .ok p ∧ p.next? = some t := by
  rw [tokenAt_succ] at h
  split at h
  · rename_i p hp
    exact ⟨p, hp, h⟩
  · cases h

theorem tokenAt_eq_none_of_le (h : replies.length ≤ i) :
    s.tokenAt address x replies (i + 1) = none := by
  rw [tokenAt, answerTo, List.getElem?_eq_none h]
  split
  · rename_i p hp
    split at hp <;> cases hp
  · rfl

/-- The replies come to an end, and so do the pages. -/
theorem exists_isLast (s : Service) (address : Url) (x : Execution) (replies : List Reply) :
    ∃ last, s.IsLast address x replies last := by
  have hend : ∃ i, s.tokenAt address x replies (i + 1) = none :=
    ⟨_, tokenAt_eq_none_of_le (Nat.le_refl _)⟩
  refine ⟨Nat.find hend, ?_, Nat.find_spec hend⟩
  intro i hi
  exact Option.ne_none_iff_exists'.1 (Nat.find_min hend hi)

end Pages

/-! ## One request after the other -/

section Requests

variable (s : Service) (address : Url) (x : Execution) (replies : List Reply) (before : List Url)

/-- The network after a number of requests, one for each of the first pages. -/
def networkAt (i : Nat) : Network :=
  ⟨some (replies.drop i), before ++ (List.range i).map (s.urlAt address x replies)⟩

/-- The stream on a page of which the given events are at hand. -/
def streamAt (i : Nat) (ready : History) : PageStream :=
  ⟨address, x, ready, s.tokenAt address x replies (i + 1)⟩

variable {s address x replies before} {i last : Nat}

/-- A request is answered with the page of its number, and is made if its URL is short enough. -/
theorem request_at (s : Service) (x : Execution) (replies : List Reply)
    (hurl : address.isRequestable = true) (before : List Url) (i : Nat) :
    s.request address x (s.tokenAt address x replies i) (s.networkAt address x replies before i)
      = (s.pageAt address x replies i,
        s.networkAt address x replies before (s.sentAt address x replies i)) := by
  have hpage : pageOf x (replies.drop i).head? = pageOf x replies[i]? := by rw [List.head?_drop]
  have hurls : before ++ (List.range i).map (s.urlAt address x replies)
        ++ [s.urlAt address x replies i]
      = before ++ (List.range (i + 1)).map (s.urlAt address x replies) := by
    rw [List.append_assoc, List.range_succ, List.map_append, List.map_singleton]
  rw [request, hurl, pageAt, answerTo, sentAt, ← urlAt]
  simp only [Bool.not_true, Bool.false_eq_true, if_false]
  split
  · rfl
  · simp only [networkAt, hpage, hurls, List.tail_drop]

theorem next_at_event (e : HistoryEvent) (ready : History) (n : Network) :
    s.next (s.streamAt address x replies i (e :: ready)) n
      = (.event e (s.streamAt address x replies i ready), n) :=
  rfl

theorem next_at_last (h : s.tokenAt address x replies (i + 1) = none) (n : Network) :
    s.next (s.streamAt address x replies i []) n = (.complete, n) := by
  simp only [next, streamAt, h]

/-- Behind a page that is followed comes the next one, or the failure of the request for it. -/
theorem next_at_page (before : List Url) (hurl : address.isRequestable = true)
    {t : String} (h : s.tokenAt address x replies (i + 1) = some t) :
    s.next (s.streamAt address x replies i []) (s.networkAt address x replies before (i + 1))
      = (match s.pageAt address x replies (i + 1) with
        | .ok p => .page (s.streamAt address x replies (i + 1) p.events)
        | .error e => .broke e,
        s.networkAt address x replies before (s.sentAt address x replies (i + 1))) := by
  have hrequest := request_at s x replies hurl before (i + 1)
  rw [h] at hrequest
  simp only [next, streamAt, h, hrequest]
  cases hpage : s.pageAt address x replies (i + 1) with
  | error e => rfl
  | ok p =>
    have htoken : s.tokenAt address x replies (i + 1 + 1) = p.next? := by rw [tokenAt_succ, hpage]
    simp only [htoken]

/-! ## Reading to the end -/

/-- What is drained of a stream: its next event, and then the rest. -/
theorem drain_eq (s : Service) (p : PageStream) (n : Network) :
    s.drain p n =
      match s.next p n with
      | (.event e rest, n') =>
        ((e :: (s.drain rest n').1.1, (s.drain rest n').1.2), (s.drain rest n').2)
      | (.page rest, n') => s.drain rest n'
      | (.broke e, n') => (([], .broke e), n')
      | (.complete, n') => (([], .complete), n') := by
  rw [drain]
  split <;> rename_i h <;> rw [h]

/-- The events at hand are delivered first. -/
theorem drain_ready (ready : History) (n : Network) :
    s.drain (s.streamAt address x replies i ready) n =
      let rest := s.drain (s.streamAt address x replies i []) n
      ((ready ++ rest.1.1, rest.1.2), rest.2) := by
  induction ready with
  | nil => rfl
  | cons e ready ih =>
    rw [drain_eq, next_at_event]
    simp only [ih]
    rfl

/-- A stream on a page delivers the events at hand, and then those of all pages behind it.  The
induction is on the number of these pages. -/
theorem drain_streamAt (before : List Url) (hurl : address.isRequestable = true)
    (hlast : s.IsLast address x replies last) (hi : i ≤ last) {p : HistoryPage}
    (hpage : s.pageAt address x replies i = .ok p) (ready : History) :
    ∃ rest, s.eventsBefore address x replies (last + 1)
        = s.eventsBefore address x replies (i + 1) ++ rest ∧
      s.drain (s.streamAt address x replies i ready)
          (s.networkAt address x replies before (i + 1))
        = ((ready ++ rest, s.endingAt address x replies last),
          s.networkAt address x replies before (s.sentAt address x replies last)) := by
  induction hk : last - i generalizing i p ready with
  | zero =>
    obtain rfl : i = last := by omega
    refine ⟨[], by rw [List.append_nil], ?_⟩
    rw [drain_ready, drain_eq, next_at_last hlast.2, endingAt, hpage, sentAt_of_pageAt hpage]
  | succ k ih =>
    obtain ⟨t, ht⟩ := hlast.1 i (by omega)
    have hnext := next_at_page before hurl ht
    cases hpage' : s.pageAt address x replies (i + 1) with
    | ok p' =>
      obtain ⟨rest, hevents, hdrain⟩ := ih (by omega) hpage' p'.events (by omega)
      have hevents' : s.eventsAt address x replies (i + 1) = p'.events := by
        rw [eventsAt, hpage']
      refine ⟨p'.events ++ rest, ?_, ?_⟩
      · rw [hevents, eventsBefore_succ (i + 1), hevents', List.append_assoc]
      · rw [hpage', sentAt_of_pageAt hpage'] at hnext
        rw [drain_ready, drain_eq, hnext]
        simp only [hdrain]
    | error e =>
      have hnone : s.tokenAt address x replies (i + 2) = none := by rw [tokenAt_succ, hpage']
      have hi' : i + 1 = last := by
        by_contra hne
        obtain ⟨t', ht'⟩ := hlast.1 (i + 1) (by omega)
        rw [hnone] at ht'
        cases ht'
      subst hi'
      have hevents : s.eventsAt address x replies (i + 1) = [] := by rw [eventsAt, hpage']
      refine ⟨[], by rw [eventsBefore_succ (i + 1), hevents], ?_⟩
      rw [hpage'] at hnext
      rw [drain_ready, drain_eq, hnext, endingAt, hpage']

/-- The first page is requested at once. -/
theorem stream_eq (haddress : s.historyUrl x = .ok address) (hurl : address.isRequestable = true) :
    s.stream x ⟨some replies, before⟩ =
      (match s.pageAt address x replies 0 with
        | .error e => .error e
        | .ok p => .ok (s.streamAt address x replies 0 p.events),
        s.networkAt address x replies before (s.sentAt address x replies 0)) := by
  have hnetwork : (⟨some replies, before⟩ : Network) = s.networkAt address x replies before 0 := by
    simp [networkAt]
  have hrequest := request_at s x replies hurl before 0
  rw [show s.tokenAt address x replies 0 = none from rfl] at hrequest
  rw [hnetwork, stream, haddress]
  cases hpage : s.pageAt address x replies 0 with
  | error e => simp only [hrequest, hpage]
  | ok p =>
    have htoken : s.tokenAt address x replies (0 + 1) = p.next? := by rw [tokenAt_succ, hpage]
    simp only [hrequest, hpage, streamAt, htoken]

/-- Where the first page does not arrive, it is the last one that is read. -/
theorem last_eq_zero (hlast : s.IsLast address x replies last) {e : SourceError}
    (hpage : s.pageAt address x replies 0 = .error e) : last = 0 := by
  by_contra hne
  obtain ⟨t, ht⟩ := hlast.1 0 (by omega)
  obtain ⟨p, hp, -⟩ := exists_pageAt_of_tokenAt ht
  rw [hpage] at hp
  cases hp

/-- What a service answers, whatever the replies are. -/
theorem fetch_eq (before : List Url) (haddress : s.historyUrl x = .ok address)
    (hurl : address.isRequestable = true) (hlast : s.IsLast address x replies last) :
    s.fetch x ⟨some replies, before⟩ =
      (match s.pageAt address x replies 0 with
        | .error e => .refused e
        | .ok _ => .streamed (s.eventsBefore address x replies (last + 1))
            (s.endingAt address x replies last),
        s.networkAt address x replies before (s.sentAt address x replies last)) := by
  rw [fetch, stream_eq haddress hurl]
  cases hpage : s.pageAt address x replies 0 with
  | error e =>
    obtain rfl := last_eq_zero hlast hpage
    rfl
  | ok p =>
    obtain ⟨rest, hevents, hdrain⟩ :=
      drain_streamAt before hurl hlast (Nat.zero_le last) hpage p.events
    have hfirst : s.eventsBefore address x replies (0 + 1) = p.events := by
      simp [eventsBefore, eventsAt, hpage]
    rw [hfirst] at hevents
    simp only [sentAt_of_pageAt hpage, hdrain, hevents]

/-- A page with a token that is as long as a URL may be is the last one that arrives, and what
stands behind it is not even requested. -/
theorem fetch_of_long_token (haddress : s.historyUrl x = .ok address)
    (hurl : address.isRequestable = true) (hshort : (s.pageUrl address none).isTooLong = false)
    {r : Reply} {h : History} {t : String} (hr : r.page x = .ok ⟨h, some t⟩)
    (ht : Url.maxLength ≤ t.toList.length) (behind : List Reply) :
    s.fetch x ⟨some (r :: behind), before⟩ =
      (.streamed h (.broke (.exchange .tooLong)),
        ⟨some behind, before ++ [s.pageUrl address none]⟩) := by
  have hsent : (s.urlAt address x (r :: behind) 0).isTooLong = false := hshort
  have hfirst : s.pageAt address x (r :: behind) 0 = .ok ⟨h, some t⟩ :=
    (pageAt_of_not_isTooLong hsent).trans hr
  have hne : t ≠ "" := by
    rintro rfl
    exact absurd ht (by simp [Url.maxLength])
  have htoken : s.tokenAt address x (r :: behind) 1 = some t := by
    rw [tokenAt_succ, hfirst]
    simp [HistoryPage.next?, hne]
  have hlong : (s.urlAt address x (r :: behind) 1).isTooLong = true := by
    rw [urlAt, htoken]
    exact isTooLong_pageUrl s address ht
  have hsecond : s.pageAt address x (r :: behind) 1 = .error (.exchange .tooLong) := by
    rw [pageAt, answerTo, ← urlAt, if_pos hlong]
  have hlast : s.IsLast address x (r :: behind) 1 := by
    refine ⟨fun i hi => ?_, by rw [tokenAt_succ, hsecond]⟩
    obtain rfl : i = 0 := by omega
    exact ⟨t, htoken⟩
  have hevents : s.eventsBefore address x (r :: behind) 2 = h := by
    simp [eventsBefore, List.range_succ, eventsAt, hfirst, hsecond]
  have hone : s.sentAt address x (r :: behind) 1 = 1 := if_pos hlong
  rw [fetch_eq before haddress hurl hlast, hfirst, hevents, endingAt, hsecond, hone]
  rfl

/-! ## In the middle of a stream -/

/-- The states that reading a stream leads through, with the events delivered so far. -/
inductive Reads (s : Service) (p : PageStream) (n : Network) :
    History → PageStream → Network → Prop where
  | start : Reads s p n [] p n
  | event {delivered : History} {q q' : PageStream} {m m' : Network} {e : HistoryEvent} :
      Reads s p n delivered q m → s.next q m = (.event e q', m') →
      Reads s p n (delivered ++ [e]) q' m'
  | page {delivered : History} {q q' : PageStream} {m m' : Network} :
      Reads s p n delivered q m → s.next q m = (.page q', m') → Reads s p n delivered q' m'

/-- A stream is on a page: the pages up to this one were requested, all events of the pages before
it were delivered, and of its own events some were delivered and the others are at hand. -/
structure OnPage (s : Service) (address : Url) (x : Execution) (replies : List Reply)
    (before : List Url) (i : Nat) (delivered : History) (q : PageStream) (m : Network) : Prop where
  stream_eq : q = s.streamAt address x replies i q.ready
  network_eq : m = s.networkAt address x replies before (i + 1)
  delivered_eq : ∃ taken, delivered = s.eventsBefore address x replies i ++ taken ∧
    taken ++ q.ready = s.eventsAt address x replies i

namespace OnPage

variable {delivered : History} {q q' : PageStream} {m m' : Network}

/-- To deliver an event leaves the stream on its page. -/
theorem event {e : HistoryEvent} (h : OnPage s address x replies before i delivered q m)
    (hnext : s.next q m = (.event e q', m')) :
    OnPage s address x replies before i (delivered ++ [e]) q' m' := by
  obtain ⟨hstream, rfl, taken, rfl, htaken⟩ := h
  cases hready : q.ready with
  | nil =>
    obtain ⟨-, hevent⟩ := of_next_eq_event hnext
    rw [hready] at hevent
    cases hevent
  | cons e' ready =>
    rw [hready] at hstream htaken
    rw [hstream, next_at_event] at hnext
    cases hnext
    refine ⟨rfl, rfl, taken ++ [e], by rw [List.append_assoc], ?_⟩
    rw [List.append_assoc]
    exact htaken

/-- A page is requested only when all events were delivered and there is a page behind; then the
stream is on the following page. -/
theorem page (hurl : address.isRequestable = true) (hlast : s.IsLast address x replies last)
    (hi : i ≤ last) (h : OnPage s address x replies before i delivered q m)
    (hnext : s.next q m = (.page q', m')) :
    i + 1 ≤ last ∧ OnPage s address x replies before (i + 1) delivered q' m' := by
  obtain ⟨hstream, rfl, taken, rfl, htaken⟩ := h
  cases hready : q.ready with
  | cons e ready =>
    rw [hready] at hstream
    rw [hstream, next_at_event] at hnext
    cases hnext
  | nil =>
    rw [hready] at hstream htaken
    cases htoken : s.tokenAt address x replies (i + 1) with
    | none =>
      rw [hstream, next_at_last htoken] at hnext
      cases hnext
    | some t =>
      have hlt : i + 1 ≤ last := by
        by_contra hgt
        obtain rfl : i = last := by omega
        rw [hlast.2] at htoken
        cases htoken
      rw [hstream, next_at_page before hurl htoken] at hnext
      cases hpage : s.pageAt address x replies (i + 1) with
      | error e =>
        rw [hpage] at hnext
        cases hnext
      | ok p =>
        rw [hpage, sentAt_of_pageAt hpage] at hnext
        cases hnext
        have hevents : s.eventsAt address x replies (i + 1) = p.events := by rw [eventsAt, hpage]
        rw [List.append_nil] at htaken
        refine ⟨hlt, rfl, rfl, [], ?_, hevents.symm⟩
        rw [eventsBefore_succ, htaken, List.append_nil]

end OnPage

/-- A stream that is read is always on one of its pages. -/
theorem Reads.onPage (hurl : address.isRequestable = true)
    (hlast : s.IsLast address x replies last) {p : HistoryPage}
    (hpage : s.pageAt address x replies 0 = .ok p) {delivered : History} {q : PageStream}
    {m : Network}
    (h : Reads s (s.streamAt address x replies 0 p.events)
      (s.networkAt address x replies before 1) delivered q m) :
    ∃ i ≤ last, OnPage s address x replies before i delivered q m := by
  induction h with
  | start =>
    have hevents : s.eventsAt address x replies 0 = p.events := by rw [eventsAt, hpage]
    exact ⟨0, Nat.zero_le last, rfl, rfl, [], rfl, hevents.symm⟩
  | event _ hnext ih =>
    obtain ⟨i, hi, hon⟩ := ih
    exact ⟨i, hi, hon.event hnext⟩
  | page _ hnext ih =>
    obtain ⟨i, hi, hon⟩ := ih
    obtain ⟨hi', hon'⟩ := hon.page hurl hlast hi hnext
    exact ⟨i + 1, hi', hon'⟩

end Requests

/-! ## Whole histories -/

/-- What a URL and the reply to a request for it mean for the history of an execution. -/
inductive Means (x : Execution) (url : Url) :
    Option Reply → Except SourceError HistoryPage → Prop where
  /-- No request is made for a URL that is too long, whatever the reply would be. -/
  | tooLong {r : Option Reply} : Url.maxLength < url.fullText.utf8ByteSize →
      Means x url r (.error (.exchange .tooLong))
  /-- Once the replies are used up, nothing is there. -/
  | nothing : url.fullText.utf8ByteSize ≤ Url.maxLength → Means x url none (.error (.notFound x))
  | notFound {r : Reply} : url.fullText.utf8ByteSize ≤ Url.maxLength → r.status = 404 →
      Means x url (some r) (.error (.notFound x))
  | refused {r : Reply} : url.fullText.utf8ByteSize ≤ Url.maxLength → r.status ≠ 404 →
      r.isSuccess = false →
      Means x url (some r) (.error (.unexpectedResponse x ("HTTP " ++ Reply.statusText r.status)))
  | unreadable {r : Reply} {f : Json.Failure} : url.fullText.utf8ByteSize ≤ Url.maxLength →
      r.status ≠ 404 → r.isSuccess = true →
      Json.Reader.decode HistoryPage.reader r.body = .error f →
      Means x url (some r) (.error (.exchange (.unreadable f)))
  | page {r : Reply} {p : HistoryPage} : url.fullText.utf8ByteSize ≤ Url.maxLength →
      r.status ≠ 404 → r.isSuccess = true →
      Json.Reader.decode HistoryPage.reader r.body = .ok p → Means x url (some r) (.ok p)

/-- Each page is what its URL and the reply to it mean. -/
theorem means_pageAt (s : Service) (address : Url) (x : Execution) (replies : List Reply)
    (i : Nat) :
    Means x (s.urlAt address x replies i) replies[i]? (s.pageAt address x replies i) := by
  rw [pageAt, answerTo, ← urlAt]
  split
  · rename_i hlong
    exact .tooLong (of_decide_eq_true hlong)
  rename_i hfits
  have hle := Nat.not_lt.1 fun hlt => hfits (decide_eq_true hlt)
  cases replies[i]? with
  | none => exact .nothing hle
  | some r =>
    rw [pageOf, Reply.page]
    by_cases hfound : r.status = 404
    · rw [if_pos hfound]
      exact .notFound hle hfound
    · rw [if_neg hfound]
      cases hsuccess : r.isSuccess with
      | false => exact .refused hle hfound hsuccess
      | true =>
        simp only [Bool.not_true, Bool.false_eq_true, if_false]
        cases hbody : Json.Reader.decode HistoryPage.reader r.body with
        | ok p => exact .page hle hfound hsuccess hbody
        | error f => exact .unreadable hle hfound hsuccess hbody

theorem next?_eq_none_iff {p : HistoryPage} :
    p.next? = none ↔ p.nextPageToken = none ∨ p.nextPageToken = some "" := by
  rw [HistoryPage.next?]
  split
  · rename_i h
    simp [h]
  · rename_i token hne
    refine ⟨.inl, fun h => h.resolve_right hne⟩

theorem next?_eq_some_iff {p : HistoryPage} {t : String} :
    p.next? = some t ↔ p.nextPageToken = some t ∧ t ≠ "" := by
  rw [HistoryPage.next?]
  split
  · rename_i h
    simp only [h, reduceCtorEq, Option.some.injEq, false_iff, not_and, not_not]
    exact Eq.symm
  · rename_i token hne
    refine ⟨fun h => ⟨h, ?_⟩, And.left⟩
    rintro rfl
    exact hne h

/-- The history of an execution is read from the replies of a service: the pages up to the last
one that is read, which is the first that names no following page or does not arrive. -/
structure ReadsHistory (s : Service) (u : Url) (x : Execution) (replies : List Reply)
    (before : List Url) (address : Url) (last : Nat) : Prop where
  address_eq : s.historyUrl x = .ok address
  means : ∀ i, Means x (s.urlAt address x replies i) replies[i]? (s.pageAt address x replies i)
  first : s.tokenAt address x replies 0 = none
  followed : ∀ i < last, ∃ p t, s.pageAt address x replies i = .ok p ∧
    p.nextPageToken = some t ∧ t ≠ "" ∧ s.tokenAt address x replies (i + 1) = some t
  not_followed : ∀ p, s.pageAt address x replies last = .ok p →
    p.nextPageToken = none ∨ p.nextPageToken = some ""
  /-- One request is made for each of the pages, with the token of the page before it; only the
  last one is not made if its URL is too long. -/
  requests_eq : ∃ sent, (s.fetch x ⟨some replies, before⟩).2 =
      ⟨some (replies.drop sent), before ++
        (List.range sent).map fun i => s.pageUrl address (s.tokenAt address x replies i)⟩ ∧
    ((s.urlAt address x replies last).fullText.utf8ByteSize ≤ Url.maxLength → sent = last + 1) ∧
    (Url.maxLength < (s.urlAt address x replies last).fullText.utf8ByteSize → sent = last)
  request : ∀ token, s.RequestsPage u address token (s.pageUrl address token)
  /-- All events are delivered, and the stream ends. -/
  whole : ∀ p, s.pageAt address x replies last = .ok p →
    (s.fetch x ⟨some replies, before⟩).1
      = .streamed (s.eventsBefore address x replies (last + 1)) .complete
  /-- Without a first page, there is no stream. -/
  refused : ∀ e, last = 0 → s.pageAt address x replies last = .error e →
    (s.fetch x ⟨some replies, before⟩).1 = .refused e
  /-- A later failure comes behind the events of all pages before it. -/
  broke : ∀ e, 0 < last → s.pageAt address x replies last = .error e →
    (s.fetch x ⟨some replies, before⟩).1
      = .streamed (s.eventsBefore address x replies last) (.broke e)
  /-- A page is requested only when all events before it were delivered. -/
  lazily : ∀ p n, s.stream x ⟨some replies, before⟩ = (.ok p, n) →
    ∀ delivered q m, s.Reads p n delivered q m →
      ∃ i ≤ last, OnPage s address x replies before i delivered q m

/-- A service with a base that requests can be made to reads every history page by page, whatever
it is answered: no page is lost or read twice, and none is asked for too early.  Only a page whose
URL is too long is not asked for, and the history breaks off there. -/
theorem reads_history {s : Service} {u : Url} (hu : Url.parse s.root.toList = .ok u)
    (hurl : u.isRequestable = true) (x : Execution) (replies : List Reply) (before : List Url) :
    ∃ address last, s.ReadsHistory u x replies before address last := by
  obtain ⟨address, haddress, hquery, hurl'⟩ := exists_historyUrl hu hurl x
  obtain ⟨last, hlast⟩ := exists_isLast s address x replies
  have hfetch := fetch_eq before haddress hurl' hlast
  refine ⟨address, last, haddress, means_pageAt s address x replies, rfl, ?_, ?_, ?_, ?_, ?_, ?_,
    ?_, ?_⟩
  · intro i hi
    obtain ⟨t, ht⟩ := hlast.1 i hi
    obtain ⟨p, hp, hnext⟩ := exists_pageAt_of_tokenAt ht
    obtain ⟨htoken, hne⟩ := next?_eq_some_iff.1 hnext
    exact ⟨p, t, hp, htoken, hne, ht⟩
  · intro p hp
    have hnone := hlast.2
    rw [tokenAt_succ, hp] at hnone
    exact next?_eq_none_iff.1 hnone
  · refine ⟨s.sentAt address x replies last, by rw [hfetch]; rfl, fun hle => ?_, fun hlt => ?_⟩
    · exact if_neg fun hlong => absurd (of_decide_eq_true hlong) (Nat.not_lt.2 hle)
    · exact if_pos (decide_eq_true hlt)
  · exact pageUrl_requestsPage s hquery
  · intro p hp
    rw [hfetch]
    cases hfirst : s.pageAt address x replies 0 with
    | error e =>
      obtain rfl := last_eq_zero hlast hfirst
      rw [hp] at hfirst
      cases hfirst
    | ok p' => simp only [endingAt, hp]
  · rintro e rfl he
    rw [hfetch, he]
  · intro e hpos he
    rw [hfetch]
    cases hfirst : s.pageAt address x replies 0 with
    | error e' => exact absurd (last_eq_zero hlast hfirst) (by omega)
    | ok p =>
      have hevents : s.eventsAt address x replies last = [] := by rw [eventsAt, he]
      simp only [endingAt, he, eventsBefore_succ, hevents, List.append_nil]
  · intro p n hstream delivered q m hreads
    rw [stream_eq haddress hurl'] at hstream
    cases hfirst : s.pageAt address x replies 0 with
    | error e =>
      rw [hfirst] at hstream
      cases hstream
    | ok p' =>
      rw [hfirst, sentAt_of_pageAt hfirst] at hstream
      cases hstream
      exact hreads.onPage hurl' hlast hfirst

end Service

/-! ### A history of which the second page is refused -/

/-- The reply that holds a page. -/
def Reply.holding (p : HistoryPage) : Reply := ⟨200, Symbols.ofString p.toValue.text⟩

/-- The page that a reply holds is read as it is written. -/
theorem Reply.page_holding (x : Execution) (p : HistoryPage) :
    (holding p).page x = .ok p.asWritten := by
  have hfound : (holding p).status ≠ 404 := fun h => absurd (show 200 = 404 from h) (by decide)
  have hsuccess : (holding p).isSuccess = true := rfl
  have hbody : Json.Reader.decode HistoryPage.reader (holding p).body = .ok p.asWritten :=
    p.decodeString_text
  rw [page, if_neg hfound]
  simp only [hsuccess, Bool.not_true, Bool.false_eq_true, if_false, hbody]

namespace Service

/-- The address of an order in the depot. -/
theorem depot_historyUrl_order : depot.historyUrl ⟨"order", "1"⟩
    = .ok (depotUrl ["api", "executions", "order", "runs", "1", "history"]) :=
  eq_ok_of_toOption (by decide +kernel)

/-- The events of the first page are delivered before the failure of the second request. -/
theorem depot_reads_first_page :
    let x : Execution := ⟨"order", "1"⟩
    let first : HistoryPage := ⟨[.of ⟨1⟩ .workflowStarted], some "a&b=c d"⟩
    Url.parse depot.root.toList = .ok (depotUrl ["api"]) ∧
      (depotUrl ["api"]).isRequestable = true ∧
      ∃ url url' n', url.parameters = [] ∧
        url'.parameters = [(Url.bytes "page_token".toList, Url.bytes "a&b=c d".toList)] ∧
        depot.fetch x ⟨some [.holding first, ⟨503, Symbols.ofString ""⟩], []⟩ =
          (.streamed first.events (.broke (.unexpectedResponse x "HTTP 503 Service Unavailable")),
            ⟨n', [url, url']⟩) := by
  intro x first
  have hurl : (depotUrl ["api"]).isRequestable = true := by decide
  refine ⟨parse_depot, hurl, ?_⟩
  let replies : List Reply := [.holding first, ⟨503, Symbols.ofString ""⟩]
  obtain ⟨address, last, h⟩ := reads_history parse_depot hurl x replies []
  obtain rfl : address = depotUrl ["api", "executions", "order", "runs", "1", "history"] :=
    Except.ok.inj (h.address_eq.symm.trans depot_historyUrl_order)
  let address := depotUrl ["api", "executions", "order", "runs", "1", "history"]
  have hshort : (depot.urlAt address x replies 0).isTooLong = false :=
    show (depot.pageUrl address none).isTooLong = false by decide +kernel
  have hfirst : depot.pageAt address x replies 0 = .ok first :=
    (pageAt_of_not_isTooLong hshort).trans (Reply.page_holding x first)
  have htoken : depot.tokenAt address x replies 1 = some "a&b=c d" := by
    rw [tokenAt_succ, hfirst]
    rfl
  have hshort' : (depot.urlAt address x replies 1).isTooLong = false := by
    rw [urlAt, htoken]
    decide +kernel
  have hsecond : depot.pageAt address x replies 1
      = .error (.unexpectedResponse x "HTTP 503 Service Unavailable") := by
    have htext : "HTTP " ++ Reply.statusText 503 = "HTTP 503 Service Unavailable" := by
      decide +kernel
    rw [pageAt_of_not_isTooLong hshort', ← htext]
    rfl
  have hlast : last = 1 := by
    by_contra hne
    rcases Nat.lt_or_gt_of_ne hne with hlt | hgt
    · obtain rfl : last = 0 := by omega
      obtain hnone | hempty := h.not_followed first hfirst
      · cases hnone
      · exact absurd hempty (by decide)
    · obtain ⟨p, t, hp, -⟩ := h.followed 1 hgt
      rw [hsecond] at hp
      cases hp
  subst hlast
  have hreading := h.broke _ Nat.one_pos hsecond
  have hevents : depot.eventsBefore address x replies 1 = first.events := by
    simp [eventsBefore, eventsAt, hfirst]
  obtain ⟨sent, hnetwork, hsent, -⟩ := h.requests_eq
  obtain rfl := hsent (Nat.not_lt.1 (of_decide_eq_false hshort'))
  refine ⟨depot.pageUrl address none, depot.pageUrl address (some "a&b=c d"), some [], ?_, ?_, ?_⟩
  · exact (h.request none).parameters_eq
  · exact (h.request _).parameters_eq
  · rw [hevents] at hreading
    refine Prod.ext hreading ?_
    rw [hnetwork, ← htoken]
    rfl

/-- A token that is as long as a URL may be. -/
def longToken : String := String.ofList (List.replicate Url.maxLength 'a')

theorem length_longToken : longToken.toList.length = Url.maxLength := by
  rw [longToken, String.toList_ofList, List.length_replicate]

theorem longToken_ne_empty : longToken ≠ "" := by
  intro h
  have hlength := length_longToken
  rw [h] at hlength
  exact absurd hlength (by simp [Url.maxLength])

/-- The page behind a long token is never requested, though the service would hand it out. -/
theorem depot_skips_long_token :
    let x : Execution := ⟨"order", "1"⟩
    let first : HistoryPage := ⟨[.of ⟨1⟩ .workflowStarted], some longToken⟩
    let second : HistoryPage := ⟨[.of ⟨2⟩ .workflowCompleted], none⟩
    (Reply.holding first).page x = .ok first ∧ (Reply.holding second).page x = .ok second ∧
      ∃ url, depot.fetch x ⟨some [.holding first, .holding second], []⟩ =
        (.streamed first.events (.broke (.exchange .tooLong)), ⟨some [.holding second], [url]⟩) := by
  intro x first second
  have hfirst : (Reply.holding first).page x = .ok first := Reply.page_holding x first
  refine ⟨hfirst, Reply.page_holding x second,
    depot.pageUrl (depotUrl ["api", "executions", "order", "runs", "1", "history"]) none, ?_⟩
  exact fetch_of_long_token depot_historyUrl_order (by decide) (by decide +kernel) hfirst
    (Nat.le_of_eq length_longToken.symm) _

end Service

end HistoryTree
