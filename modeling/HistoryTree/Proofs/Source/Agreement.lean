import HistoryTree.Proofs.Expansion.Acceptance
import HistoryTree.Proofs.Expansion.Named
import HistoryTree.Proofs.Source.Files
import HistoryTree.Proofs.Source.Paging

/-!
# The sources agree

The same histories may be kept in memory, in files, and behind a service that hands them out page
by page.  Files answer like the memory for all executions that the histories name, up to times, and
a history that is split into pages is put together again (`Service.fetch_pages`).  Both together
are `Memory.sources_agree`.  Paths, URLs and leap seconds set limits to it
(`Memory.sources_differ`).
-/

namespace HistoryTree

/-! ## Pages -/

/-- Pages into which a history is split: at least one, each but the last naming the one behind it,
and the last naming none. -/
structure History.SplitInto (h : History) (pages : List HistoryPage) : Prop where
  ne_nil : pages ≠ []
  events_eq : pages.flatMap (·.events) = h
  followed : ∀ p ∈ pages.dropLast, ∃ t, p.nextPageToken = some t ∧ t ≠ ""
  last : ∀ p, pages.getLast? = some p → p.nextPageToken = none ∨ p.nextPageToken = some ""

/-- Pages that are written are the pages of the history that is written. -/
theorem History.SplitInto.asWritten {h : History} {pages : List HistoryPage}
    (hpages : h.SplitInto pages) :
    h.asWritten.SplitInto (pages.map HistoryPage.asWritten) where
  ne_nil := by simpa using hpages.ne_nil
  events_eq := by
    rw [List.flatMap_map, ← hpages.events_eq, History.asWritten, List.map_flatMap]
    rfl
  followed := by
    intro p hp
    rw [← List.map_dropLast] at hp
    obtain ⟨q, hq, rfl⟩ := List.mem_map.1 hp
    exact hpages.followed q hq
  last := by
    intro p hp
    rw [List.getLast?_map, Option.map_eq_some_iff] at hp
    obtain ⟨q, hq, rfl⟩ := hp
    exact hpages.last q hq

namespace Service

variable {s : Service} {address : Url} {x : Execution} {replies : List Reply}
  {pages : List HistoryPage} {h : History}

/-- The URLs of all pages are short enough to be requested. -/
def Reaches (s : Service) (address : Url) (pages : List HistoryPage) : Prop :=
  ∀ token ∈ none :: pages.dropLast.map (·.nextPageToken),
    (s.pageUrl address token).fullText.utf8ByteSize ≤ Url.maxLength

theorem reaches_map_asWritten (hreach : s.Reaches address pages) :
    s.Reaches address (pages.map HistoryPage.asWritten) := by
  intro token htoken
  rw [← List.map_dropLast, List.map_map] at htoken
  exact hreach token htoken

theorem Reaches.isTooLong_eq (hreach : s.Reaches address pages) {token : Option String}
    (htoken : token ∈ none :: pages.dropLast.map (·.nextPageToken)) :
    (s.pageUrl address token).isTooLong = false :=
  decide_eq_false (Nat.not_lt.2 (hreach token htoken))

theorem pageOf_of_map_page (hreplies : replies.map (·.page x) = pages.map .ok)
    (behind : List Reply) {i : Nat} {p : HistoryPage} (hp : pages[i]? = some p) :
    pageOf x (replies ++ behind)[i]? = .ok p := by
  have hmap : (replies.map (·.page x))[i]? = some (.ok p) := by
    rw [hreplies, List.getElem?_map, hp]
    rfl
  rw [List.getElem?_map, Option.map_eq_some_iff] at hmap
  obtain ⟨r, hr, hpage⟩ := hmap
  have hlt : i < replies.length := (List.getElem?_eq_some_iff.1 hr).1
  rw [List.getElem?_append_left hlt, hr]
  exact hpage

/-- Replies that hold pages are these pages, whatever comes behind them, if all of them are reached.
The induction is on the number of the page, because its URL holds the token of the one before. -/
theorem pageAt_of_map_page (hreplies : replies.map (·.page x) = pages.map .ok)
    (hpages : h.SplitInto pages) (hreach : s.Reaches address pages) (behind : List Reply) {i : Nat}
    {p : HistoryPage} (hp : pages[i]? = some p) :
    s.pageAt address x (replies ++ behind) i = .ok p := by
  induction i generalizing p with
  | zero =>
    have hshort : (s.urlAt address x (replies ++ behind) 0).isTooLong = false :=
      hreach.isTooLong_eq List.mem_cons_self
    rw [pageAt_of_not_isTooLong hshort, pageOf_of_map_page hreplies behind hp]
  | succ i ih =>
    have hlt : i < pages.dropLast.length := by
      have hi := (List.getElem?_eq_some_iff.1 hp).1
      rw [List.length_dropLast]
      omega
    have hbefore : s.pageAt address x (replies ++ behind) i = .ok pages.dropLast[i] := by
      refine ih ?_
      rw [List.getElem_dropLast]
      exact List.getElem?_eq_getElem _
    have hmem : pages.dropLast[i] ∈ pages.dropLast := List.getElem_mem hlt
    have htoken : s.tokenAt address x (replies ++ behind) (i + 1)
        = pages.dropLast[i].nextPageToken := by
      obtain ⟨t, ht, hne⟩ := hpages.followed _ hmem
      rw [tokenAt_succ, hbefore, ht]
      exact next?_eq_some_iff.2 ⟨ht, hne⟩
    have hshort : (s.urlAt address x (replies ++ behind) (i + 1)).isTooLong = false := by
      rw [urlAt, htoken]
      exact hreach.isTooLong_eq (List.mem_cons_of_mem _ (List.mem_map_of_mem hmem))
    rw [pageAt_of_not_isTooLong hshort, pageOf_of_map_page hreplies behind hp]

/-- The last page of a history is the last one that is read. -/
theorem isLast_of_splitInto (hreplies : replies.map (·.page x) = pages.map .ok)
    (hpages : h.SplitInto pages) (hreach : s.Reaches address pages) (behind : List Reply) :
    s.IsLast address x (replies ++ behind) (pages.length - 1) := by
  have hpos : 0 < pages.length := List.length_pos_of_ne_nil hpages.ne_nil
  have htoken : ∀ i p, pages[i]? = some p →
      s.tokenAt address x (replies ++ behind) (i + 1) = p.next? := by
    intro i p hp
    rw [tokenAt_succ, pageAt_of_map_page hreplies hpages hreach behind hp]
  constructor
  · intro i hi
    have hlt : i < pages.dropLast.length := by rwa [List.length_dropLast]
    obtain ⟨t, ht⟩ := hpages.followed pages.dropLast[i] (List.getElem_mem hlt)
    rw [List.getElem_dropLast] at ht
    exact ⟨t, (htoken i _ (List.getElem?_eq_getElem _)).trans (next?_eq_some_iff.2 ht)⟩
  · have hlast : pages[pages.length - 1]? = some (pages.getLast hpages.ne_nil) := by
      rw [← List.getLast?_eq_getElem?, List.getLast?_eq_some_getLast hpages.ne_nil]
    rw [htoken _ _ hlast, next?_eq_none_iff]
    exact hpages.last _ (List.getLast?_eq_some_getLast hpages.ne_nil)

theorem eventsBefore_of_map_page (hreplies : replies.map (·.page x) = pages.map .ok)
    (hpages : h.SplitInto pages) (hreach : s.Reaches address pages) (behind : List Reply) (n : Nat)
    (hn : n ≤ pages.length) :
    s.eventsBefore address x (replies ++ behind) n = (pages.take n).flatMap (·.events) := by
  induction n with
  | zero => rfl
  | succ n ih =>
    have hp : pages[n]? = some pages[n] := List.getElem?_eq_getElem hn
    have hevents : s.eventsAt address x (replies ++ behind) n = pages[n].events := by
      rw [eventsAt, pageAt_of_map_page hreplies hpages hreach behind hp]
    rw [eventsBefore_succ, ih (by omega), hevents, List.take_succ_eq_append_getElem hn,
      List.flatMap_append, List.flatMap_singleton]

/-- A history that is handed out in pages is put together again, if all of them are reached. -/
theorem fetch_pages (haddress : s.historyUrl x = .ok address)
    (hurl : address.isRequestable = true) (hpages : h.SplitInto pages)
    (hreach : s.Reaches address pages) (hreplies : replies.map (·.page x) = pages.map .ok)
    (behind : List Reply) (before : List Url) :
    (s.fetch x ⟨some (replies ++ behind), before⟩).1 = .whole h := by
  have hpos : 0 < pages.length := List.length_pos_of_ne_nil hpages.ne_nil
  have hfirst := pageAt_of_map_page hreplies hpages hreach behind (List.getElem?_eq_getElem hpos)
  have hlast := pageAt_of_map_page hreplies hpages hreach behind
    (List.getElem?_eq_getElem (Nat.sub_lt hpos Nat.one_pos))
  have hevents := eventsBefore_of_map_page hreplies hpages hreach behind pages.length
    (Nat.le_refl _)
  have hcount : pages.length - 1 + 1 = pages.length := by omega
  rw [List.take_length, hpages.events_eq] at hevents
  rw [fetch_eq before haddress hurl (isLast_of_splitInto hreplies hpages hreach behind), hfirst,
    hcount, hevents, endingAt, hlast]
  rfl

/-- A history that is written in pages is read as it is written. -/
theorem fetch_written_pages (haddress : s.historyUrl x = .ok address)
    (hurl : address.isRequestable = true) (hpages : h.SplitInto pages)
    (hreach : s.Reaches address pages)
    (hreplies : replies.map (·.page x) = pages.map (.ok ·.asWritten)) (behind : List Reply)
    (before : List Url) :
    (s.fetch x ⟨some (replies ++ behind), before⟩).1 = .whole h.asWritten := by
  have hwritten : replies.map (·.page x) = (pages.map HistoryPage.asWritten).map .ok := by
    rw [hreplies, List.map_map]
    rfl
  exact fetch_pages haddress hurl hpages.asWritten (reaches_map_asWritten hreach) hwritten behind
    before

end Service

/-! ## The agreement -/

/-- To write a history changes times only. -/
theorem History.untimed_asWritten (h : History) : h.asWritten.untimed = h.untimed := by
  rw [untimed, asWritten, List.map_map]
  rfl

namespace Memory

theorem answers_eq_ok_iff {m : Memory} {x : Execution} {h : History} :
    m.answers x = .ok h ↔ m.history? x = some h := by
  rw [answers]
  cases m.history? x <;> simp

theorem drain_fetch {m : Memory} {x : Execution} {h : History} (hx : m.history? x = some h) :
    (fetch x m).1.drain = .history h := by
  simp only [fetch, hx]
  rfl

/-- The same histories lead to the same whether they are kept in memory, in files or in pages.
With the standard handlers, an execution whose ids are usable as file names, as are those of all
executions that the histories name, is projected from memory and from files to the same group, or
fails in the same way.  And each of the histories is read from a service that hands it out in
pages, all with URLs that are short enough, as it is read from memory, up to the leap seconds that
no clock shows.  A file may hold any document that reads as the history does when it is written,
and a reply any that reads as the page does; what they are written as is such a document. -/
theorem sources_agree {m : Memory} {files : FileTree} {root : String} {place : List String}
    (hfiles : Directory.Holds files root m place)
    (hnamed : ∀ y h, m.history? y = some h → ∀ e ∈ h, ∀ c, e.kind.child? = some c →
      Directory.IsUsable root c) :
    ((∀ h : History,
        Json.Reader.decodeString History.reader h.toValue.text = .ok h.asWritten) ∧
      ∀ x p, (Reply.holding p).page x = .ok p.asWritten) ∧
    (∀ x, Directory.IsUsable root x → ∀ (types : List EventType) (limits : Limits) {σ : Type}
      (s : Session σ) (s' : Session Memory), s'.source = m →
      let registry := Registry.standard.unregisterAll types
      let directory : Source σ := Directory.fetch (fun path => pure (files.read path)) root
      resultOf (Session.project directory registry limits x s)
          = resultOf (Session.project fetch registry limits x s') ∧
        (s.cancelled = s'.cancelled →
          resultOf (Session.projectUnlessCancelled directory registry limits x s)
            = resultOf (Session.projectUnlessCancelled fetch registry limits x s'))) ∧
    ∀ x h, m.history? x = some h → ∀ pages, h.SplitInto pages →
      ∀ (service : Service) u, Url.parse service.root.toList = .ok u → u.isRequestable = true →
      ∃ address, service.historyUrl x = .ok address ∧
        (service.Reaches address pages →
          ∀ replies behind before, replies.map (·.page x) = pages.map (.ok ·.asWritten) →
            (service.fetch x ⟨some (replies ++ behind), before⟩).1.drain = .history h.asWritten ∧
            (fetch x m).1.drain = .history h ∧
            (h.asWritten = h ↔ ∀ e ∈ h, ¬ e.IsStray)) := by
  refine ⟨⟨History.decodeString_text, Reply.page_holding⟩, ?_, ?_⟩
  · rintro x hx types limits σ s s' rfl registry directory
    have hsame : ∀ y, Directory.IsUsable root y →
        (s'.source.answers y).map History.untimed
          = (Directory.answers files root y).map History.untimed := by
      intro y hy
      rw [Directory.answers_eq hfiles hy]
      cases s'.source.answers y with
      | error e => rfl
      | ok h => exact congrArg Except.ok h.untimed_asWritten.symm
    have hnamed' : ∀ y h, s'.source.answers y = .ok h → ∀ e ∈ h, ∀ c, e.kind.child? = some c →
        Directory.IsUsable root c :=
      fun y h hy => hnamed y h (answers_eq_ok_iff.1 hy)
    obtain ⟨hproject, hunless⟩ := Session.resultOf_project_of_named
      (Registry.standard_asksForNamed types) (Registry.standard_readsNoTime types)
      s'.source.serves (Directory.serves files root s.source) (Directory.IsUsable root) hsame
      hnamed' limits hx
    exact ⟨hproject.symm, fun hcancelled => (hunless hcancelled.symm).symm⟩
  · intro x h hx pages hpages service u hu hurl
    obtain ⟨address, haddress, -, hurl'⟩ := Service.exists_historyUrl hu hurl x
    refine ⟨address, haddress, fun hreach replies behind before hreplies => ?_⟩
    rw [Service.fetch_written_pages haddress hurl' hpages hreach hreplies]
    exact ⟨rfl, drain_fetch hx, History.asWritten_eq_self_iff⟩

/-! ### The order in files and in pages -/

/-- The ids of the order and of its payment can be names of files. -/
theorem order_hasFileNames :
    Directory.HasFileNames ⟨"order", "1"⟩ ∧ Directory.HasFileNames ⟨"payment", "1"⟩ :=
  ⟨⟨by decide, by decide, by decide, by decide⟩, ⟨by decide, by decide, by decide, by decide⟩⟩

theorem eq_order_or_payment {y : Execution} {h : History} (hy : order.history? y = some h) :
    y = ⟨"order", "1"⟩ ∨ y = ⟨"payment", "1"⟩ := by
  rw [order, history?_insert, history?_insert] at hy
  split at hy
  · rename_i hyx
    exact .inl hyx
  · split at hy
    · rename_i hyx
      exact .inr hyx
    · cases hy

/-- The histories of the order name no child but its payment. -/
theorem eq_payment_of_order_names {y c : Execution} {h : History}
    (hy : order.history? y = some h) {e : HistoryEvent} (he : e ∈ h)
    (hc : e.kind.child? = some c) : c = ⟨"payment", "1"⟩ := by
  rw [order, history?_insert, history?_insert] at hy
  split at hy
  · cases hy
    simp only [List.mem_cons, List.not_mem_nil, or_false] at he
    rcases he with rfl | rfl | rfl | rfl | rfl | rfl <;> cases hc
    rfl
  · split at hy
    · cases hy
      simp only [List.mem_cons, List.not_mem_nil, or_false] at he
      rcases he with rfl | rfl | rfl <;> cases hc
    · cases hy

/-- The order leads to the same from files, and the events of its payment are read from pages, of
which one is empty. -/
theorem order_sources_agree :
    let root := "/work/histories"
    let files := Directory.filled root order.histories
    let payment : Execution := ⟨"payment", "1"⟩
    let replies : List Reply := [.holding ⟨[.of ⟨1⟩ .workflowStarted], some "a&b"⟩,
      .holding ⟨[], some "c"⟩,
      .holding ⟨[.of ⟨2⟩ (.timerStarted none), .of ⟨3⟩ (.timerFired ⟨2⟩)], none⟩]
    resultOf (Session.project (Directory.fetch (fun path => pure (files.read path)) root)
        (Registry.standard.unregisterAll [.timerFired]) {} ⟨"order", "1"⟩ (.start ()))
      = resultOf (Session.project fetch (Registry.standard.unregisterAll [.timerFired]) {}
        ⟨"order", "1"⟩ (.start order)) ∧
    (Service.depot.fetch payment ⟨some replies, []⟩).1.drain = (fetch payment order).1.drain := by
  intro root files payment replies
  have hroot : Directory.IsPlain root := by
    show ∀ name ∈ FileTree.names "/work/histories", _
    decide +kernel
  have hholds : Directory.Holds files root order (Directory.placeOf root) :=
    Directory.holds_filled hroot (by decide)
  have husable : ∀ x, Directory.HasFileNames x → Directory.IsUsable root x :=
    fun x hx => hx.isUsable (by decide)
  have hnames : ∀ y h, order.history? y = some h → ∀ e ∈ h, ∀ c, e.kind.child? = some c →
      Directory.IsUsable root c := by
    intro y h hy e he c hc
    obtain rfl := eq_payment_of_order_names hy he hc
    exact husable _ order_hasFileNames.2
  obtain ⟨-, hfiles, hpages⟩ := sources_agree hholds hnames
  refine ⟨(hfiles _ (husable _ order_hasFileNames.1) [.timerFired] {} (.start ()) (.start order)
    rfl).1, ?_⟩
  let pages : List HistoryPage := [⟨[.of ⟨1⟩ .workflowStarted], some "a&b"⟩, ⟨[], some "c"⟩,
    ⟨[.of ⟨2⟩ (.timerStarted none), .of ⟨3⟩ (.timerFired ⟨2⟩)], none⟩]
  have hsplit : History.SplitInto [.of ⟨1⟩ .workflowStarted, .of ⟨2⟩ (.timerStarted none),
      .of ⟨3⟩ (.timerFired ⟨2⟩)] pages := by
    refine ⟨by decide, by decide, ?_, ?_⟩
    · intro p hp
      simp only [pages, List.dropLast, List.mem_cons, List.not_mem_nil, or_false] at hp
      rcases hp with rfl | rfl
      · exact ⟨_, rfl, by decide⟩
      · exact ⟨_, rfl, by decide⟩
    · intro p hp
      obtain rfl := Option.some.inj hp
      exact .inl rfl
  have hreplies : replies.map (·.page payment) = pages.map (.ok ·.asWritten) := by
    simp [replies, pages, Reply.page_holding]
  obtain ⟨address, haddress, hread⟩ := hpages payment _ rfl pages hsplit Service.depot _
    Service.parse_depot (by decide)
  have hpayment : Service.depot.historyUrl payment = .ok (Service.depotUrl
      ["api", "executions", "payment", "runs", "1", "history"]) :=
    Service.eq_ok_of_toOption (by decide +kernel)
  obtain rfl := Except.ok.inj (haddress.symm.trans hpayment)
  have hreach : Service.depot.Reaches (Service.depotUrl
      ["api", "executions", "payment", "runs", "1", "history"]) pages := by
    show ∀ token ∈ [none, some "a&b", some "c"], _
    decide +kernel
  obtain ⟨hservice, hmemory, -⟩ := hread hreach replies [] [] hreplies
  exact hservice.trans hmemory.symm

/-! ### Where the sources differ -/

/-- A root that is the top of the tree, but is as long as a path may not be. -/
def longRoot : String := String.ofList (.replicate FileTree.pathLimit '/')

theorem utf8ByteSize_longRoot : FileTree.pathLimit ≤ longRoot.utf8ByteSize := by
  have hlength := Url.length_le_utf8ByteSize (.replicate FileTree.pathLimit '/')
  rwa [List.length_replicate] at hlength

/-- Below the long root, the order is held in files that are not found. -/
theorem project_below_longRoot :
    let files := Directory.filled longRoot order.histories
    Directory.Holds files longRoot order [] ∧
    resultOf (Session.project (Directory.fetch (fun path => pure (files.read path)) longRoot)
        .standard {} ⟨"order", "1"⟩ (.start ()))
      = .error (.failed (.source (.file ⟨"order", "1"⟩ .nameTooLong))) := by
  intro files
  have hholds : Directory.Holds files longRoot order (Directory.placeOf longRoot) :=
    Directory.holds_filled (Directory.isPlain_separators _) (by decide)
  have hplace : Directory.placeOf longRoot = [] := Directory.placeOf_separators _
  rw [hplace] at hholds
  refine ⟨hholds, ?_⟩
  have hanswer := Directory.answers_of_long_root order_hasFileNames.1 utf8ByteSize_longRoot files
  have hpermits : Limits.Permits {} [] ⟨"order", "1"⟩ := ⟨Nat.zero_le _, fun _ => List.not_mem_nil⟩
  have hserves := Directory.serves files longRoot ()
  refine (Session.resultOf_below (s := .start ()) hserves {} false [] _).trans ?_
  rw [Trace.below_of_permits hpermits]
  exact Trace.result_bind_of_error (Trace.result_ask_eq_error_iff.2 ⟨_, hanswer, rfl⟩)

/-- The order is projected from memory, but not from files whose root is too long; a history in
two pages with a long token between them breaks off behind the first; and the event in a leap second
that no clock shows is read from a page with the time that it is written with. -/
theorem sources_differ :
    let x : Execution := ⟨"order", "1"⟩
    let files := Directory.filled longRoot order.histories
    let started : HistoryEvent := .of ⟨1⟩ .workflowStarted
    let completed : HistoryEvent := .of ⟨2⟩ .workflowCompleted
    let pages : List HistoryPage := [⟨[started], some Service.longToken⟩, ⟨[completed], none⟩]
    let late : HistoryPage := ⟨[.lateStart], none⟩
    (Directory.Holds files longRoot order [] ∧
      (∀ y h, order.history? y = some h →
        Directory.HasFileNames y ∧
          ∀ e ∈ h, ∀ c, e.kind.child? = some c → Directory.HasFileNames c) ∧
      resultOf (Session.project (Directory.fetch (fun path => pure (files.read path)) longRoot)
          .standard {} x (.start ())) ≠
        resultOf (Session.project fetch .standard {} x (.start order))) ∧
    (History.SplitInto [started, completed] pages ∧
      (Service.depot.fetch x ⟨some (pages.map .holding), []⟩).1.drain ≠
        (fetch x (empty.insert x [started, completed])).1.drain) ∧
    History.SplitInto late.events [late] ∧
      (Service.depot.fetch x ⟨some [.holding late], []⟩).1.drain ≠
        (fetch x (empty.insert x late.events)).1.drain := by
  intro x files started completed pages late
  have hlate : History.SplitInto late.events [late] := ⟨by simp, by simp, by simp, by simp [late]⟩
  refine ⟨⟨project_below_longRoot.1, ?_, ?_⟩, ⟨?_, ?_⟩, ⟨?_, ?_⟩⟩
  · intro y h hy
    refine ⟨?_, fun e he c hc => ?_⟩
    · obtain rfl | rfl := eq_order_or_payment hy
      · exact order_hasFileNames.1
      · exact order_hasFileNames.2
    · obtain rfl := eq_payment_of_order_names hy he hc
      exact order_hasFileNames.2
  · obtain ⟨g, hg⟩ : ∃ g, resultOf (Session.project fetch .standard {} x (.start order)) = .ok g :=
      ⟨_, rfl⟩
    rw [project_below_longRoot.2, hg]
    simp
  · refine ⟨by simp [pages], rfl, ?_, ?_⟩
    · intro p hp
      obtain rfl : p = ⟨[started], some Service.longToken⟩ := by simpa [pages] using hp
      exact ⟨_, rfl, Service.longToken_ne_empty⟩
    · intro p hp
      obtain rfl := Option.some.inj hp
      exact .inl rfl
  · have hfirst := Reply.page_holding x ⟨[started], some Service.longToken⟩
    have hfetch : Service.depot.fetch x ⟨some (pages.map .holding), []⟩
        = (.streamed [started] (.broke (.exchange .tooLong)), _) :=
      Service.fetch_of_long_token Service.depot_historyUrl_order (by decide) (by decide +kernel)
        hfirst (Nat.le_of_eq Service.length_longToken.symm) _
    rw [hfetch, drain_fetch (h := [started, completed]) (by rw [history?_insert, if_pos rfl])]
    simp [Reading.drain]
  · exact hlate
  · have hreach : Service.depot.Reaches (Service.depotUrl
        ["api", "executions", "order", "runs", "1", "history"]) [late] := by
      show ∀ token ∈ [none], _
      decide +kernel
    have hreplies : [Reply.holding late].map (·.page x) = [late].map (.ok ·.asWritten) := by
      simp [Reply.page_holding]
    have hfetch : (Service.depot.fetch x ⟨some [.holding late], []⟩).1
        = .whole (History.asWritten late.events) :=
      Service.fetch_written_pages Service.depot_historyUrl_order (by decide) hlate hreach hreplies
        [] []
    have hstray : HistoryEvent.lateStart.IsStray := ⟨_, rfl, by decide⟩
    rw [hfetch, drain_fetch (h := late.events) (by rw [history?_insert, if_pos rfl])]
    intro heq
    have hself : History.asWritten late.events = late.events := Drained.history.inj heq
    exact History.asWritten_eq_self_iff.1 hself _ (by simp [late]) hstray

end Memory

end HistoryTree
