import HistoryTree.Proofs.Event.Reading
import HistoryTree.Proofs.Json.Results
import HistoryTree.Proofs.Timestamp.RoundTrip
import HistoryTree.Source.Page

/-!
# Events written and read back

The columns of an event type read what the members of a kind of this type hold
(`EventKind.reads_members`), and no field of a type has the name of one that all events share
(`EventKind.isField_of_mem_members`), so that the members of an event come apart into those that
its reader looks for in turn.  So an event, a history and a page of a history are what their
written forms read as, up to the leap seconds that no clock shows (`History.documents_read_back`);
and no document reads as an event in one of these (`HistoryEvent.reader_gives`).
-/

namespace HistoryTree

open Json

/-! ## Ids -/

theorem EventId.reader_ofValue (levels : Nat) (i : EventId) :
    (Reader.int64 levels (Tree.ofValue i.toValue)).map EventId.mk = .ok i := by
  rw [toValue, Reader.int64_ofValue]
  rfl

/-! ## Kinds -/

namespace EventKind

variable {k : EventKind} {m : String × Value}

theorem readId_toValue (i : EventId) : readId i.toValue = .ok i := by
  show (Reader.toInt64 (.integer i.value.toInt)).map EventId.mk = .ok i
  rw [Reader.toInt64_toInt]
  rfl

/-- The names of the members that all events have in common. -/
def commonKeys : List String := ["event_id", "timestamp", "event_type"]

/-- A member that only some events have: a text or an id, which does not have the name of a common
member. -/
structure IsField (m : String × Value) : Prop where
  not_common : m.1 ∉ commonKeys
  text_or_id : (∃ s, m.2 = .string s) ∨ ∃ i : EventId, m.2 = i.toValue

theorem isField_text {key : String} (hkey : key ∉ commonKeys) (s : String) :
    IsField (key, .string s) :=
  ⟨hkey, .inl ⟨s, rfl⟩⟩

theorem isField_id {key : String} (hkey : key ∉ commonKeys) (i : EventId) :
    IsField (key, i.toValue) :=
  ⟨hkey, .inr ⟨i, rfl⟩⟩

theorem isField_of_mem_optionalMember {key : String} {o : Option String}
    (hkey : key ∉ commonKeys) (h : m ∈ optionalMember key o) : IsField m := by
  cases o with
  | none => cases h
  | some s =>
    obtain rfl := List.mem_singleton.1 h
    exact isField_text hkey s

/-- The members for the fields of a kind are such members. -/
theorem isField_of_mem_members (h : m ∈ k.members) : IsField m := by
  cases k with
  | workflowFailed | timerStarted => exact isField_of_mem_optionalMember (by decide) h
  | workflowSignaled name | activityScheduled name | childInitiated name | markerRecorded name =>
    obtain rfl := List.mem_singleton.1 h
    exact isField_text (by decide) name
  | activityStarted id | activityCompleted id | activityFailed id | activityTimedOut id
  | childCompleted id | childFailed id | childTimedOut id | timerFired id | timerCanceled id =>
    obtain rfl := List.mem_singleton.1 h
    exact isField_id (by decide) id
  | childStarted id child =>
    simp only [members, List.mem_cons, List.not_mem_nil, or_false] at h
    obtain rfl | rfl | rfl := h
    · exact isField_id (by decide) id
    · exact isField_text (by decide) child.id
    · exact isField_text (by decide) child.run
  | workflowStarted | workflowCompleted | decisionScheduled | decisionStarted | decisionCompleted
  | unrecognized => cases h

/-- No member of an event has containers in it. -/
theorem IsField.nesting_eq (h : IsField m) : m.2.nesting = 0 := by
  obtain ⟨s, hs⟩ | ⟨i, hi⟩ := h.text_or_id
  · rw [hs]
    rfl
  · rw [hi]
    rfl

theorem IsField.integral (h : IsField m) : m.2.Integral := by
  obtain ⟨s, hs⟩ | ⟨i, hi⟩ := h.text_or_id
  · rw [hs]
    trivial
  · rw [hi]
    exact Value.integral_int i.value

theorem reads_id (key : String) (i : EventId) :
    Row.Reads [idColumn key] [(key, i.toValue)] (i, ()) :=
  Row.reads_present rfl (readId_toValue i) (by simp) Row.reads_nil

theorem reads_text (key s : String) : Row.Reads [textColumn key] [(key, .string s)] (s, ()) :=
  Row.reads_present rfl rfl (by simp) Row.reads_nil

/-- A text that is absent is not written, and is read as absent. -/
theorem reads_optionalText (key : String) (o : Option String) :
    Row.Reads [optionalTextColumn key] (optionalMember key o) (o, ()) := by
  cases o with
  | none => exact Row.reads_absent rfl (by simp [optionalMember]) trivial
  | some s => exact Row.reads_present rfl rfl (by simp) Row.reads_nil

/-- The columns of a type read what the members of a kind of this type hold. -/
theorem reads_members (k : EventKind) :
    ∃ row, Row.Reads k.type.columns k.members row ∧ ofRow k.type row = k := by
  cases k with
  | workflowFailed reason => exact ⟨(reason, ()), reads_optionalText "reason" reason, rfl⟩
  | timerStarted timer => exact ⟨(timer, ()), reads_optionalText "timer_id" timer, rfl⟩
  | workflowSignaled name | activityScheduled name | childInitiated name | markerRecorded name =>
    exact ⟨(name, ()), reads_text _ name, rfl⟩
  | activityStarted id | activityCompleted id | activityFailed id | activityTimedOut id
  | childCompleted id | childFailed id | childTimedOut id | timerFired id | timerCanceled id =>
    exact ⟨(id, ()), reads_id _ id, rfl⟩
  | childStarted id child =>
    refine ⟨(id, child.id, child.run, ()), ?_, rfl⟩
    refine Row.reads_present rfl (readId_toValue id) (by simp [idColumn]) ?_
    exact Row.reads_present rfl rfl (by simp [textColumn]) (reads_text "child_run_id" child.run)
  | workflowStarted | workflowCompleted | decisionScheduled | decisionStarted | decisionCompleted
  | unrecognized => exact ⟨(), trivial, rfl⟩

/-- The members of a kind: its type and its fields. -/
def tagged (k : EventKind) : List (String × Value) :=
  ("event_type", .string k.type.name) :: k.members

/-- A kind is read from the members that it is written as, behind its type. -/
theorem isReadFrom_tagged (k : EventKind) : k.IsReadFrom k.tagged := by
  have hfields : ∀ m ∈ k.members, m.1 ≠ "event_type" := by
    intro m hm heq
    exact (isField_of_mem_members hm).not_common (by simp [heq, commonKeys])
  have htype : Row.Reads [typeColumn] k.tagged (k.type, ()) := by
    refine Row.reads_present rfl ?_ hfields Row.reads_nil
    show Except.ok (typeOfName k.type.name) = _
    rw [typeOfName, EventType.ofName?_name]
    rfl
  have hremaining : Row.remaining [typeColumn] k.tagged = k.members := by
    show Row.remaining [typeColumn] ([("event_type", .string k.type.name)] ++ k.members) = _
    refine Row.remaining_append ?_ ?_
    · simp [typeColumn]
    · intro m hm
      simpa [typeColumn] using hfields m hm
  obtain ⟨row, hrow, hk⟩ := reads_members k
  exact ⟨row, htype, hremaining ▸ hrow, hk⟩

end EventKind

/-! ## Events -/

namespace HistoryEvent

/-- The members of an event apart from those of its kind. -/
def untagged (e : HistoryEvent) : List (String × Value) :=
  ("event_id", e.id.toValue) ::
    match e.timestamp with
    | none => []
    | some t => [("timestamp", .string t.text)]

theorem toValue_eq (e : HistoryEvent) : e.toValue = .object (e.untagged ++ e.kind.tagged) := rfl

theorem integral_toValue (e : HistoryEvent) : e.toValue.Integral := by
  rw [toValue_eq]
  refine Value.membersIntegral_iff.2 fun m hm => ?_
  obtain hm | hm := List.mem_append.1 hm
  · obtain ⟨id, timestamp, kind⟩ := e
    cases timestamp with
    | none =>
      obtain rfl := List.mem_singleton.1 hm
      exact Value.integral_int id.value
    | some t =>
      simp only [untagged, List.mem_cons, List.not_mem_nil, or_false] at hm
      obtain rfl | rfl := hm
      · exact Value.integral_int id.value
      · trivial
  · obtain rfl | hm := List.mem_cons.1 hm
    · trivial
    · exact (EventKind.isField_of_mem_members hm).integral

/-- The event that the written form of an event reads as. -/
def asWritten (e : HistoryEvent) : HistoryEvent :=
  { e with timestamp := e.timestamp.map Timestamp.asWritten }

/-- An event that was recorded in a leap second within a minute. -/
def IsStray (e : HistoryEvent) : Prop := ∃ t ∈ e.timestamp, t.IsStray

/-- An event is written as itself unless it was recorded in a leap second within a minute. -/
theorem asWritten_eq_self_iff {e : HistoryEvent} : e.asWritten = e ↔ ¬ e.IsStray := by
  obtain ⟨id, timestamp, kind⟩ := e
  cases timestamp with
  | none => simp [asWritten, IsStray]
  | some t => simp [asWritten, IsStray, Timestamp.asWritten_eq_self_iff]

/-- The members that all events have are read as they are written. -/
theorem reads_untagged (levels : Nat) (e : HistoryEvent) :
    Row.Reads (columns levels) (Row.trees e.untagged)
      (e.asWritten.id, e.asWritten.timestamp, ()) := by
  have hid := EventId.reader_ofValue levels e.id
  obtain ⟨id, timestamp, kind⟩ := e
  cases timestamp with
  | none =>
    show Row.Reads (columns levels) [("event_id", Tree.ofValue id.toValue)] (id, none, ())
    exact Row.reads_present rfl hid (by simp) (Row.reads_absent rfl (by simp) Row.reads_nil)
  | some t =>
    have ht : Reader.optional Timestamp.reader levels (.string (.of t.text))
        = .ok (some t.asWritten) := by
      show (Timestamp.reader levels (.string (.of t.text))).map some = _
      simp only [Timestamp.reader, Scan.get, Scan.of, Timestamp.parse_text]
      rfl
    show Row.Reads (columns levels) [("event_id", Tree.ofValue id.toValue),
      ("timestamp", .string (.of t.text))] (id, some t.asWritten, ())
    refine Row.reads_present rfl hid (by simp) ?_
    refine Row.reads_present rfl ?_ (by simp) Row.reads_nil
    dsimp only
    exact ht

/-- The common members of an event have the names that are looked for. -/
theorem key_of_mem_untagged {levels : Nat} {e : HistoryEvent} {m : String × Value}
    (h : m ∈ e.untagged) : m.1 ∈ (columns levels).map (·.key) := by
  obtain ⟨id, timestamp, kind⟩ := e
  cases timestamp with
  | none =>
    obtain rfl := List.mem_singleton.1 h
    simp [columns]
  | some t =>
    simp only [untagged, List.mem_cons, List.not_mem_nil, or_false] at h
    obtain rfl | rfl := h <;> simp [columns]

/-- No member of a kind is taken for a common one. -/
theorem key_of_mem_tagged {levels : Nat} {e : HistoryEvent} {m : String × Value}
    (h : m ∈ e.kind.tagged) : m.1 ∉ (columns levels).map (·.key) := by
  obtain rfl | h := List.mem_cons.1 h
  · simp [columns]
  · have hcommon := (EventKind.isField_of_mem_members h).not_common
    simp only [EventKind.commonKeys, List.mem_cons, not_or] at hcommon
    simp [columns, hcommon.1, hcommon.2.1]

/-- The tree of an event reads as the event that is written. -/
theorem reader_ofValue (levels : Nat) (e : HistoryEvent) :
    reader (levels + 1) (Tree.ofValue e.toValue) = .ok e.asWritten := by
  have huntagged : ∀ m ∈ Row.trees e.untagged, m.1 ∈ (columns levels).map (·.key) := by
    intro m hm
    obtain ⟨n, hn, rfl⟩ := List.mem_map.1 hm
    exact key_of_mem_untagged hn
  have htagged : ∀ m ∈ Row.trees e.kind.tagged, m.1 ∉ (columns levels).map (·.key) := by
    intro m hm
    obtain ⟨n, hn, rfl⟩ := List.mem_map.1 hm
    exact key_of_mem_tagged hn
  have hnesting : ∀ m ∈ e.kind.tagged, m.2.nesting ≤ levels := by
    intro m hm
    obtain rfl | hm := List.mem_cons.1 hm
    · exact Nat.zero_le _
    · rw [(EventKind.isField_of_mem_members hm).nesting_eq]
      exact Nat.zero_le _
  have happend : Row.trees (e.untagged ++ e.kind.tagged)
      = Row.trees e.untagged ++ Row.trees e.kind.tagged := List.map_append
  rw [toValue_eq, Tree.ofValue, Row.ofMembers_eq_intact, happend]
  refine reader_eq_ok_iff.2 ⟨?_, e.kind.tagged, ?_, EventKind.isReadFrom_tagged e.kind⟩
  · exact (reads_untagged levels e).of_perm (List.Perm.refl _) htagged
  · rw [Row.remaining_append huntagged htagged]
    exact Row.others_trees hnesting

/-- The written form of an event reads as the event that is written. -/
theorem decodeString_text (e : HistoryEvent) :
    Reader.decodeString reader e.toValue.text = .ok e.asWritten :=
  (Reader.decodeString_text _ e.integral_toValue).trans (e.reader_ofValue 126)

end HistoryEvent

/-- No document reads as a time stamp in a leap second that no clock shows. -/
theorem Timestamp.reader_gives : Timestamp.reader.Gives fun t => ¬ t.IsStray := by
  intro levels t a ha
  rw [Timestamp.reader.eq_def] at ha
  split at ha
  · split at ha
    · cases ha
    split at ha
    · rename_i hparse
      cases ha
      exact Timestamp.not_isStray_of_parse hparse
    · cases ha
  · exact absurd ha (Tree.refuse_ne_ok _ _ a)

/-- Nothing reads as an event that was recorded in a leap second within a minute. -/
theorem HistoryEvent.reader_gives : HistoryEvent.reader.Gives fun e => ¬ e.IsStray := by
  intro levels t e he
  rw [HistoryEvent.reader.eq_def] at he
  split at he
  · cases he
  · split at he
    · cases he
    rename_i id timestamp u rest hrow
    obtain ⟨k, -, rfl⟩ := exists_of_map he
    obtain ⟨-, htimestamp, -⟩ := Row.given_ofMembers hrow
    rintro ⟨a, ha, hstray⟩
    obtain habsent | ⟨j, hread⟩ := htimestamp
    · cases habsent
      cases ha
    · exact Timestamp.reader_gives.optional _ _ _ hread a ha hstray
  · exact absurd he (Tree.refuse_ne_ok _ _ e)

/-! ## Histories and pages -/

namespace History

/-- The history that the written form of a history reads as. -/
def asWritten (h : History) : History := h.map HistoryEvent.asWritten

/-- A history is written as itself unless an event of it was recorded in a leap second within a
minute. -/
theorem asWritten_eq_self_iff {h : History} : h.asWritten = h ↔ ∀ e ∈ h, ¬ e.IsStray := by
  have hid : h.asWritten = h ↔ h.map HistoryEvent.asWritten = h.map id := by
    rw [List.map_id, asWritten]
  rw [hid, List.map_inj_left]
  exact forall₂_congr fun e _ => HistoryEvent.asWritten_eq_self_iff

theorem integral_toValue (h : History) : h.toValue.Integral := by
  refine Value.itemsIntegral_iff.2 fun v hv => ?_
  obtain ⟨e, -, rfl⟩ := List.mem_map.1 hv
  exact e.integral_toValue

theorem reader_ofValue (levels : Nat) (h : History) :
    reader (levels + 2) (Tree.ofValue h.toValue) = .ok h.asWritten :=
  Reader.list_ofValue (HistoryEvent.reader_ofValue levels) h

/-- The written form of a history reads as the history that is written. -/
theorem decodeString_text (h : History) :
    Reader.decodeString reader h.toValue.text = .ok h.asWritten :=
  (Reader.decodeString_text _ h.integral_toValue).trans (h.reader_ofValue 125)

theorem reader_gives : reader.Gives fun h => ∀ e ∈ h, ¬ e.IsStray :=
  HistoryEvent.reader_gives.list

end History

namespace HistoryPage

/-- The page that the written form of a page reads as. -/
def asWritten (p : HistoryPage) : HistoryPage := { p with events := p.events.asWritten }

/-- A page is written as itself unless an event of it was recorded in a leap second within a
minute. -/
theorem asWritten_eq_self_iff {p : HistoryPage} :
    p.asWritten = p ↔ ∀ e ∈ p.events, ¬ e.IsStray := by
  obtain ⟨events, token⟩ := p
  simp [asWritten, History.asWritten_eq_self_iff]

/-- The member for the token of a page. -/
def tokenMember : Option String → List (String × Value)
  | none => []
  | some token => [("next_page_token", .string token)]

theorem toValue_eq (p : HistoryPage) :
    p.toValue = .object (("events", p.events.toValue) :: tokenMember p.nextPageToken) := by
  obtain ⟨events, token⟩ := p
  cases token <;> rfl

theorem integral_toValue (p : HistoryPage) : p.toValue.Integral := by
  obtain ⟨events, token⟩ := p
  cases token with
  | none => exact ⟨events.integral_toValue, trivial⟩
  | some token => exact ⟨events.integral_toValue, trivial, trivial⟩

theorem reader_ofValue (levels : Nat) (p : HistoryPage) :
    reader (levels + 3) (Tree.ofValue p.toValue) = .ok p.asWritten := by
  obtain ⟨events, token⟩ := p
  have hevents : History.reader (levels + 2) (Tree.ofValue events.toValue)
      = .ok events.asWritten := History.reader_ofValue levels events
  have hkeys : ∀ m ∈ Row.trees (("events", events.toValue) :: tokenMember token),
      m.1 ∈ (columns (levels + 2)).map (·.key) := by
    cases token <;> simp [Row.trees, tokenMember, columns]
  have hrow : Row.Reads (columns (levels + 2))
      (Row.trees (("events", events.toValue) :: tokenMember token))
      (events.asWritten, token, ()) := by
    cases token with
    | none =>
      refine Row.reads_present rfl hevents (by simp [tokenMember]) ?_
      exact Row.reads_absent rfl (by simp [tokenMember]) Row.reads_nil
    | some token =>
      refine Row.reads_present rfl hevents (by simp [tokenMember]) ?_
      exact Row.reads_present rfl rfl (by simp) Row.reads_nil
  rw [toValue_eq, Tree.ofValue, Row.ofMembers_eq_intact, reader, Reader.record_of_reads hrow hkeys]
  rfl

/-- The written form of a page reads as the page that is written. -/
theorem decodeString_text (p : HistoryPage) :
    Reader.decodeString reader p.toValue.text = .ok p.asWritten :=
  (Reader.decodeString_text _ p.integral_toValue).trans (p.reader_ofValue 124)

theorem reader_gives : reader.Gives fun p => ∀ e ∈ p.events, ¬ e.IsStray := by
  intro levels t p hp
  obtain ⟨inner, ⟨events, token, u⟩, ⟨hevents, -⟩, rfl⟩ := Reader.exists_of_record hp
  obtain habsent | ⟨j, hread⟩ := hevents
  · cases habsent
  · exact History.reader_gives _ _ _ hread

end HistoryPage

/-! ## Documents -/

/-- Reading what was written of a value that was read gives this value again, if values are read
as they are written and only those are read that are written as themselves. -/
theorem decode_bind_decodeString {α : Type} {r : Reader α} {P : α → Prop} {toValue : α → Value}
    {asWritten : α → α} (hr : r.Gives P) (hP : ∀ a, P a → asWritten a = a)
    (hwritten : ∀ a, Reader.decodeString r (toValue a).text = .ok (asWritten a)) (d : Symbols) :
    ((Reader.decode r d).bind fun a => Reader.decodeString r (toValue a).text) = Reader.decode r d := by
  cases hd : Reader.decode r d with
  | error f => rfl
  | ok a =>
    have ha : P a := hr.of_decode hd
    exact (hwritten a).trans (congrArg Except.ok (hP a ha))

/-- The written forms of an event, a history and a page read as what was written, which is the
value itself unless a time stamp in it lies in a leap second within a minute.  So writing what a
document was read as, and reading that, gives what the document gave. -/
theorem History.documents_read_back :
    (∀ e : HistoryEvent, Reader.decodeString HistoryEvent.reader e.toValue.text = .ok e.asWritten ∧
      (e.asWritten = e ↔ ¬ e.IsStray)) ∧
    (∀ h : History, Reader.decodeString History.reader h.toValue.text = .ok h.asWritten ∧
      (h.asWritten = h ↔ ∀ e ∈ h, ¬ e.IsStray)) ∧
    (∀ p : HistoryPage, Reader.decodeString HistoryPage.reader p.toValue.text = .ok p.asWritten ∧
      (p.asWritten = p ↔ ∀ e ∈ p.events, ¬ e.IsStray)) ∧
    ∀ d : Symbols,
      ((Reader.decode HistoryEvent.reader d).bind fun e =>
          Reader.decodeString HistoryEvent.reader e.toValue.text)
        = Reader.decode HistoryEvent.reader d ∧
      ((Reader.decode History.reader d).bind fun h =>
          Reader.decodeString History.reader h.toValue.text)
        = Reader.decode History.reader d ∧
      ((Reader.decode HistoryPage.reader d).bind fun p =>
          Reader.decodeString HistoryPage.reader p.toValue.text)
        = Reader.decode HistoryPage.reader d := by
  refine ⟨fun e => ⟨e.decodeString_text, HistoryEvent.asWritten_eq_self_iff⟩,
    fun h => ⟨h.decodeString_text, asWritten_eq_self_iff⟩,
    fun p => ⟨p.decodeString_text, HistoryPage.asWritten_eq_self_iff⟩, fun d => ⟨?_, ?_, ?_⟩⟩
  · exact decode_bind_decodeString HistoryEvent.reader_gives
      (fun e => HistoryEvent.asWritten_eq_self_iff.2) HistoryEvent.decodeString_text d
  · exact decode_bind_decodeString reader_gives (fun h => asWritten_eq_self_iff.2)
      History.decodeString_text d
  · exact decode_bind_decodeString HistoryPage.reader_gives
      (fun p => HistoryPage.asWritten_eq_self_iff.2) HistoryPage.decodeString_text d

/-- The start of an execution, half a second into a leap second behind 12:00:30. -/
def HistoryEvent.lateStart : HistoryEvent :=
  ⟨⟨1⟩, some ⟨⟨2024, 5, 1, by decide⟩, ⟨12, 0, 30, 1500000000, by decide⟩⟩, .workflowStarted⟩

/-- This event is written with the time 12:00:31.5, and read back with it. -/
theorem HistoryEvent.lateStart_not_read_back :
    (∃ t, Reader.decodeString reader lateStart.toValue.text = .ok (lateStart.recordedAt t) ∧
      t.time.second = 31 ∧ t.time.nanosecond = 500000000) ∧
    Reader.decodeString reader lateStart.toValue.text ≠ .ok lateStart := by
  have hread := lateStart.decodeString_text
  refine ⟨⟨⟨⟨2024, 5, 1, by decide⟩, ⟨12, 0, 31, 500000000, by decide⟩⟩, hread.trans ?_, rfl, rfl⟩,
    fun h => ?_⟩
  · decide
  · rw [hread] at h
    exact absurd (Except.ok.inj h) (by decide)

end HistoryTree
