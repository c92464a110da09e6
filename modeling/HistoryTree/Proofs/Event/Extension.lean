import HistoryTree.Proofs.Event.Reading
import HistoryTree.Proofs.Event.RoundTrip

/-!
# Events of newer services

A newer service may write the members of an event in another order, add members, or use types that
are not listed.  None of this makes a history unreadable (`HistoryEvent.decode_is_extensible`):
the order does not matter, members that the event does not look for are passed over, whatever
values of any kind they have, and an event of an unlisted type is read as `unrecognized`, whatever
members it has beside its id and its time stamp.
-/

namespace HistoryTree

open Json

/-! ## More members, in another order -/

theorem EventKind.IsReadFrom.of_perm {k : EventKind} {rest rest' added : List (String × Value)}
    (h : k.IsReadFrom rest) (hperm : rest'.Perm (rest ++ added))
    (hadded : ∀ m ∈ added, m.1 ≠ "event_type" ∧ m.1 ∉ k.type.columns.map (·.key)) :
    k.IsReadFrom rest' := by
  have htag : ∀ m ∈ added, m.1 ∉ [typeColumn].map (·.key) := by
    intro m hm
    simpa [typeColumn] using (hadded m hm).1
  obtain ⟨row, htype, hrow, hk⟩ := h
  refine ⟨row, htype.of_perm hperm htag, ?_, hk⟩
  exact hrow.of_perm (Row.perm_remaining hperm htag) fun m hm => (hadded m hm).2

namespace HistoryEvent

variable {levels : Nat} {e : HistoryEvent} {ms ms' extra : List (String × Tree)}

/-- The names of the members that an event looks for. -/
def keys (e : HistoryEvent) : List String :=
  EventKind.commonKeys ++ e.kind.type.columns.map (·.key)

/-- An event is read as before from its members in another order and with others among them. -/
theorem reader_of_perm (h : reader (levels + 1) (.object (Row.intact ms) .closed) = .ok e)
    (hperm : ms'.Perm (ms ++ extra)) (hkeys : ∀ m ∈ extra, m.1 ∉ e.keys)
    (hvalues : ∀ m ∈ extra, m.2.IsValue levels) :
    reader (levels + 1) (.object (Row.intact ms') .closed) = .ok e := by
  have hcolumns : ∀ m ∈ extra, m.1 ∉ (columns levels).map (·.key) := by
    intro m hm hkey
    have hcommon : m.1 ∈ EventKind.commonKeys := by
      simp only [columns, List.map_cons, List.map_nil, List.mem_cons, List.not_mem_nil,
        or_false] at hkey
      obtain hkey | hkey := hkey <;> simp [EventKind.commonKeys, hkey]
    exact hkeys m hm (List.mem_append_left _ hcommon)
  obtain ⟨hreads, rest, hrest, hkind⟩ := reader_eq_ok_iff.1 h
  obtain ⟨added, hadded⟩ := Row.exists_others hvalues
  obtain ⟨rest', hrest', hmore⟩ :=
    List.perm_comp_forall₂ (Row.perm_remaining hperm hcolumns) (List.rel_append hrest hadded)
  refine reader_eq_ok_iff.2 ⟨hreads.of_perm hperm hcolumns, rest', hrest', ?_⟩
  refine hkind.of_perm hmore fun r hr => ?_
  obtain ⟨m, hm, hkey⟩ := Row.Others.exists_mem hadded hr
  have hfree := hkeys m hm
  rw [hkey, keys, List.mem_append, not_or] at hfree
  refine ⟨?_, hfree.2⟩
  rintro htype
  exact hfree.1 (by simp [htype, EventKind.commonKeys])

/-! ## Unlisted types -/

theorem reads_columns {id : Tree} {i : Int64} (hid : Row.Only ms "event_id" id)
    (hi : Reader.int64 levels id = .ok i)
    (htimestamp : (∀ m ∈ ms, m.1 ≠ "timestamp") ∨ ∃ t time, Row.Only ms "timestamp" t ∧
      Reader.optional Timestamp.reader levels t = .ok time) :
    ∃ time, Row.Reads (columns levels) ms (⟨i⟩, time, ()) := by
  have hread : (Reader.int64 levels id).map EventId.mk = .ok ⟨i⟩ := by
    rw [hi]
    rfl
  have htimes : (ms.filter (·.1 ≠ "event_id")).filter (·.1 = "timestamp")
      = ms.filter (·.1 = "timestamp") :=
    Row.filter_filter_key fun m hm => by simp [hm]
  obtain hnone | ⟨t, time, ht, htime⟩ := htimestamp
  · refine ⟨none, .inr ⟨_, hid, hread⟩, .inl ⟨htimes.trans ?_, rfl⟩, trivial⟩
    exact List.filter_eq_nil_iff.2 fun m hm => by simpa using hnone m hm
  · exact ⟨time, .inr ⟨_, hid, hread⟩, .inr ⟨_, htimes.trans ht, htime⟩, trivial⟩

/-- A type with a name that is not listed is read as unrecognized, whatever stands beside it. -/
theorem isReadFrom_unrecognized {rest : List (String × Value)} {name : String}
    (htype : Row.Only rest "event_type" (.string name)) (hname : ∀ t : EventType, t.name ≠ name) :
    EventKind.unrecognized.IsReadFrom rest := by
  have htypeOf : EventKind.typeOfName name = .unrecognized := by
    have hnone : EventType.ofName? name = none :=
      List.find?_eq_none.2 fun t _ => by simpa using hname t
    rw [EventKind.typeOfName, hnone]
    rfl
  refine ⟨(), ⟨.inr ⟨_, htype, ?_⟩, trivial⟩, trivial, rfl⟩
  exact congrArg Except.ok htypeOf

/-- An event of an unlisted type is read whatever members it has beside its id and its time
stamp. -/
theorem reader_of_unlisted {id : Tree} {i : Int64} {name : String}
    (hid : Row.Only ms "event_id" id) (hi : Reader.int64 levels id = .ok i)
    (htimestamp : (∀ m ∈ ms, m.1 ≠ "timestamp") ∨ ∃ t time, Row.Only ms "timestamp" t ∧
      Reader.optional Timestamp.reader levels t = .ok time)
    (htype : Row.Only ms "event_type" (.string (.of name)))
    (hname : ∀ t : EventType, t.name ≠ name)
    (hvalues : ∀ m ∈ ms, m.1 ∉ EventKind.commonKeys → m.2.IsValue levels) :
    ∃ time, reader (levels + 1) (.object (Row.intact ms) .closed)
      = .ok ⟨⟨i⟩, time, .unrecognized⟩ := by
  have hremaining : ∀ m ∈ Row.remaining (columns levels) ms, m.2.IsValue levels := by
    intro m hm
    obtain ⟨hm, hkey⟩ := List.mem_filter.1 hm
    by_cases hown : m.1 = "event_type"
    · have honly : m ∈ ms.filter (·.1 = "event_type") := List.mem_filter.2 ⟨hm, by simpa using hown⟩
      rw [htype, List.mem_singleton] at honly
      subst honly
      exact ⟨.string name, by cases levels <;> rfl⟩
    · refine hvalues m hm ?_
      simp only [columns, List.map_cons, List.map_nil, List.mem_cons, List.not_mem_nil, or_false,
        not_or, decide_eq_true_eq] at hkey
      simp [EventKind.commonKeys, hkey, hown]
  obtain ⟨time, hreads⟩ := reads_columns hid hi htimestamp
  obtain ⟨rest, hrest⟩ := Row.exists_others hremaining
  have hown : (Row.remaining (columns levels) ms).filter (·.1 = "event_type")
      = [("event_type", .string (.of name))] :=
    (Row.filter_filter_key fun m hm => by simp [columns, hm]).trans htype
  have htypeRead := Row.Others.filter hrest "event_type"
  rw [hown, Row.Others, List.forall₂_cons_left_iff] at htypeRead
  obtain ⟨⟨key, v⟩, more, ⟨rfl, hv⟩, hmore, hrestType⟩ := htypeRead
  obtain rfl := List.forall₂_nil_left_iff.1 hmore
  obtain rfl : Value.string name = v := by
    cases levels <;> exact Except.ok.inj hv
  have hkind := isReadFrom_unrecognized hrestType hname
  exact ⟨time, reader_eq_ok_iff.2 ⟨hreads, rest, hrest, hkind⟩⟩

/-- An event is read as before from its members in another order and with members among them that
it does not look for, and an event of a type that is not listed is read as such. -/
theorem decode_is_extensible :
    (∀ {d d' : Symbols} {ms ms' extra : List (String × Tree)} {e : HistoryEvent},
      Lists d ms → Reader.decode reader d = .ok e → Lists d' ms' → ms'.Perm (ms ++ extra) →
      (∀ m ∈ extra, m.1 ∉ e.keys ∧ m.2.IsValue (maxLevels - 1)) →
      Reader.decode reader d' = .ok e) ∧
    ∀ {d : Symbols} {ms : List (String × Tree)} {id : Tree} {i : Int64} {name : String},
      Lists d ms → Row.Only ms "event_id" id → Reader.int64 (maxLevels - 1) id = .ok i →
      ((∀ m ∈ ms, m.1 ≠ "timestamp") ∨ ∃ t time, Row.Only ms "timestamp" t ∧
        Reader.optional Timestamp.reader (maxLevels - 1) t = .ok time) →
      Row.Only ms "event_type" (.string (.of name)) → (∀ t : EventType, t.name ≠ name) →
      (∀ m ∈ ms, m.1 ∉ EventKind.commonKeys → m.2.IsValue (maxLevels - 1)) →
      ∃ time, Reader.decode reader d = .ok ⟨⟨i⟩, time, .unrecognized⟩ := by
  constructor
  · intro d d' ms ms' extra e hd he hd' hperm hextra
    rw [hd.decode] at he
    rw [hd'.decode]
    exact reader_of_perm he hperm (fun m hm => (hextra m hm).1) fun m hm => (hextra m hm).2
  · intro d ms id i name hd hid hi htimestamp htype hname hvalues
    rw [hd.decode]
    exact reader_of_unlisted hid hi htimestamp htype hname hvalues

/-! ### A timer that fired, and what is not known yet -/

/-- A timer fired. -/
def fired : HistoryEvent := ⟨⟨7⟩, none, .timerFired ⟨3⟩⟩

/-- Members that a timer does not have, one of them twice. -/
def foreign : List (String × Value) :=
  [("reason", .null), ("signal_name", .array [.object []]), ("reason", .bool true)]

/-- An event of an unlisted type, with a member of its own. -/
def scheduleChanged : List (String × Value) :=
  [("schedule", .array [.string "daily"]), ("event_type", .string "ScheduleChanged"),
    ("event_id", .int (8 : Int64).toInt)]

/-- A fired timer is read from members in another order with foreign ones between them, and a change
of schedule, which is not listed, is unrecognized. -/
theorem fired_is_extensible :
    Reader.decodeString reader
        (Value.object (foreign ++ (fired.untagged ++ fired.kind.tagged).reverse)).text
      = .ok fired ∧
    ∃ time, Reader.decodeString reader (Value.object scheduleChanged).text
      = .ok ⟨⟨8⟩, time, .unrecognized⟩ := by
  constructor
  · have hplain : (Value.object (fired.untagged ++ fired.kind.tagged)).Integral :=
      fired.integral_toValue
    have hmore : (Value.object
        (foreign ++ (fired.untagged ++ fired.kind.tagged).reverse)).Integral := by
      refine Value.membersIntegral_iff.2 fun m hm => ?_
      obtain hm | hm := List.mem_append.1 hm
      · simp only [foreign, List.mem_cons, List.not_mem_nil, or_false] at hm
        obtain rfl | rfl | rfl := hm
        · trivial
        · exact ⟨trivial, trivial⟩
        · trivial
      · exact Value.membersIntegral_iff.1 hplain m (List.mem_reverse.1 hm)
    have hperm : (Row.trees (foreign ++ (fired.untagged ++ fired.kind.tagged).reverse)).Perm
        (Row.trees (fired.untagged ++ fired.kind.tagged) ++ Row.trees foreign) := by
      rw [Row.trees, Row.trees, Row.trees, ← List.map_append]
      exact (List.perm_append_comm.trans ((List.reverse_perm _).append_right foreign)).map _
    refine decode_is_extensible.1 (lists_text hplain) ?_ (lists_text hmore) hperm ?_
    · exact (Reader.decodeString_text _ hplain).trans (fired.reader_ofValue 126)
    · intro m hm
      obtain ⟨n, hn, rfl⟩ := List.mem_map.1 hm
      simp only [foreign, List.mem_cons, List.not_mem_nil, or_false] at hn
      obtain rfl | rfl | rfl := hn
      · exact ⟨by decide, _, Reader.any_ofValue _ _ (by decide)⟩
      · exact ⟨by decide, _, Reader.any_ofValue _ _ (by decide)⟩
      · exact ⟨by decide, _, Reader.any_ofValue _ _ (by decide)⟩
  · have hintegral : (Value.object scheduleChanged).Integral :=
      ⟨⟨trivial, trivial⟩, trivial, Value.integral_int 8, trivial⟩
    have htype : Row.Only (Row.trees scheduleChanged) "event_type"
        (.string (.of "ScheduleChanged")) := rfl
    refine decode_is_extensible.2 (lists_text hintegral) (i := 8) rfl (Reader.int64_ofValue _ 8)
      (.inl (by decide)) htype ?_ ?_
    · intro t
      cases t <;> decide
    · intro m hm _
      obtain ⟨n, hn, rfl⟩ := List.mem_map.1 hm
      simp only [scheduleChanged, List.mem_cons, List.not_mem_nil, or_false] at hn
      obtain rfl | rfl | rfl := hn
      · exact ⟨_, Reader.any_ofValue _ _ (by decide)⟩
      · exact ⟨_, Reader.any_ofValue _ _ (by decide)⟩
      · exact ⟨_, Reader.any_ofValue _ _ (by decide)⟩

end HistoryEvent

end HistoryTree
