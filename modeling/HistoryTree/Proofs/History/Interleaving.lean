import HistoryTree.Proofs.History.Offspring

/-!
# Events of different tasks in any order

What a history says about a task depends on the events that concern the task and on their order,
and not on how the events of other tasks stand between them.  Two histories with the same events
for each task, which create tasks in the same order and move the execution alike, are therefore
both coherent or both not (`History.SamePerTask.coherent`), and they depict the same group
(`History.SamePerTask.portrait_eq`).

Whatever a rule of coherence asks of the events before an event is about one task, or about the
execution.  So it can be asked of those events alone, and there both histories agree at each place
(`exists_split_of_filter_eq`).
-/

namespace HistoryTree

/-- Whether an event creates a task or refers to it. -/
def HistoryEvent.concerns (e : HistoryEvent) (task : EventId) : Bool :=
  e.created?.any (·.id = task) || e.refersTo task

/-- Two histories with the same events for each task, tasks being created in the same order, and
with the same events of the execution itself. -/
structure History.SamePerTask (h h' : History) : Prop where
  creating : h.filter (·.created?.isSome) = h'.filter (·.created?.isSome)
  concerning : ∀ task, h.filter (·.concerns task) = h'.filter (·.concerns task)
  moving : h.filter (·.groupTarget?.isSome) = h'.filter (·.groupTarget?.isSome)

/-! ## Parts of a list -/

section

variable {α β : Type} {p q : α → Bool} {l l' before' after' : List α} {a : α}

/-- Where the members of a kind are the same, each of them has the same ones before it. -/
theorem exists_split_of_filter_eq (h : l.filter p = l'.filter p) (hl' : l' = before' ++ a :: after')
    (ha : p a = true) :
    ∃ before after, l = before ++ a :: after ∧ before.filter p = before'.filter p := by
  rw [hl', List.filter_append, List.filter_cons_of_pos ha] at h
  obtain ⟨l₁, l₂, rfl, hl₁, hl₂⟩ := List.filter_eq_append_iff.1 h
  obtain ⟨gap, after, rfl, hgap, -, -⟩ := List.filter_eq_cons_iff.1 hl₂
  refine ⟨l₁ ++ gap, after, by rw [List.append_assoc], ?_⟩
  rw [List.filter_append, List.filter_eq_nil_iff.2 hgap, List.append_nil, hl₁]

theorem mem_of_filter_eq (h : l.filter p = l'.filter p) (hmem : a ∈ l') (ha : p a = true) :
    a ∈ l := by
  have hfilter : a ∈ l.filter p := h ▸ List.mem_filter.2 ⟨hmem, ha⟩
  exact (List.mem_filter.1 hfilter).1

/-- What is picked out of equal selections is equal. -/
theorem filter_eq_of_imp (h : l.filter q = l'.filter q) (hpq : ∀ a, p a = true → q a = true) :
    l.filter p = l'.filter p := by
  have hpart : ∀ m : List α, (m.filter q).filter p = m.filter p := by
    intro m
    rw [List.filter_filter]
    refine List.filter_congr fun a _ => ?_
    cases ha : p a with
    | false => rfl
    | true => rw [hpq a ha, Bool.and_self]
  rw [← hpart l, h, hpart l']

theorem filterMap_eq_of_imp {f : α → Option β} (h : l.filter q = l'.filter q)
    (hf : ∀ a, (f a).isSome = true → q a = true) : l.filterMap f = l'.filterMap f := by
  have hpart : ∀ m : List α, (m.filter q).filterMap f = m.filterMap f := by
    intro m
    rw [List.filterMap_filter]
    refine List.filterMap_congr fun a _ => ?_
    cases ha : f a with
    | none => rw [ite_self]
    | some b => rw [hf a (by rw [ha]; rfl), if_pos rfl]
  rw [← hpart l, h, hpart l']

theorem lookup_filter_key [DecidableEq α] (l : List (α × β)) (a : α) :
    (l.filter (·.1 = a)).lookup a = l.lookup a := by
  induction l with
  | nil => rfl
  | cons b l ih =>
    obtain ⟨k, v⟩ := b
    by_cases hk : k = a
    · subst hk
      simp
    · have hne : (a == k) = false := by simpa using Ne.symm hk
      rw [List.filter_cons_of_neg (by simpa using hk), ih, List.lookup_cons, hne]

end

namespace HistoryEvent

variable {e : HistoryEvent} {task : EventId}

theorem concerns_of_refersTo (h : e.refersTo task = true) : e.concerns task = true := by
  rw [concerns, h, Bool.or_true]

theorem concerns_of_creates {t : Task} (hm : e.meaning = .creates t) :
    e.concerns t.id = true := by
  rw [concerns, created?_eq_some_iff.2 hm]
  simp

end HistoryEvent

namespace History

variable {h h' : History} {task : EventId}

theorem mem_createdIds_iff :
    task ∈ h.createdIds ↔ ∃ e ∈ h, ∃ t, e.meaning = .creates t ∧ t.id = task := by
  simp only [createdIds, created, List.mem_map, List.mem_filterMap,
    HistoryEvent.created?_eq_some_iff]
  constructor
  · rintro ⟨t, ⟨e, he, hm⟩, rfl⟩
    exact ⟨e, he, t, hm, rfl⟩
  · rintro ⟨e, he, t, hm, rfl⟩
    exact ⟨t, ⟨e, he, hm⟩, rfl⟩

/-- Whether a task was created can be told from the events that concern it. -/
theorem mem_createdIds_of_concerning
    (hsame : h.filter (·.concerns task) = h'.filter (·.concerns task))
    (hid : task ∈ h'.createdIds) : task ∈ h.createdIds := by
  obtain ⟨e, he, t, hm, rfl⟩ := mem_createdIds_iff.1 hid
  exact mem_createdIds_iff.2
    ⟨e, mem_of_filter_eq hsame he (HistoryEvent.concerns_of_creates hm), t, hm, rfl⟩

namespace SamePerTask

@[refl] theorem refl (h : History) : h.SamePerTask h := ⟨rfl, fun _ => rfl, rfl⟩

@[symm] theorem symm (hs : h.SamePerTask h') : h'.SamePerTask h :=
  ⟨hs.creating.symm, fun task => (hs.concerning task).symm, hs.moving.symm⟩

/-! ## What both histories have -/

/-- Histories with the same events for each task create the same tasks, in the same order. -/
theorem created_eq (hs : h.SamePerTask h') : h.created = h'.created :=
  filterMap_eq_of_imp hs.creating fun _ => id

theorem lastTarget?_eq (hs : h.SamePerTask h') (task : EventId) :
    h.lastTarget? task = h'.lastTarget? task := by
  have hrefers : h.filter (·.refersTo task) = h'.filter (·.refersTo task) :=
    filter_eq_of_imp (hs.concerning task) fun _ => HistoryEvent.concerns_of_refersTo
  rw [lastTarget?, hrefers, lastTarget?]

/-- Histories with the same events for each task leave the group in the same status. -/
theorem groupStatus_eq (hs : h.SamePerTask h') : h.groupStatus = h'.groupStatus := by
  have hmoves : h.filterMap (·.groupTarget?) = h'.filterMap (·.groupTarget?) :=
    filterMap_eq_of_imp hs.moving fun _ => id
  rw [groupStatus, hmoves, groupStatus]

/-- A task starts the same child executions in both. -/
theorem starts_eq (hs : h.SamePerTask h') (task : EventId) :
    h.starts.filter (·.1 = task) = h'.starts.filter (·.1 = task) := by
  rw [starts, starts, List.filter_filterMap, List.filter_filterMap]
  refine filterMap_eq_of_imp (hs.concerning task) ?_
  intro e hsome
  obtain ⟨s, hs⟩ := Option.isSome_iff_exists.1 hsome
  obtain ⟨hstart, htask⟩ := Option.filter_eq_some_iff.1 hs
  obtain rfl : s.1 = task := by simpa using htask
  exact HistoryEvent.concerns_of_refersTo
    (HistoryEvent.refersTo_of_starts (HistoryEvent.start?_eq_some_iff.1 hstart))

theorem childOf?_eq (hs : h.SamePerTask h') (task : EventId) :
    h.childOf? task = h'.childOf? task := by
  rw [childOf?, ← lookup_filter_key, hs.starts_eq task, lookup_filter_key, childOf?]

theorem perm_starts (hs : h.SamePerTask h') : h.starts.Perm h'.starts := by
  rw [List.perm_iff_count]
  intro s
  have hcount : ∀ l : List (EventId × Execution), (l.filter (·.1 = s.1)).count s = l.count s :=
    fun l => List.count_filter (by simp)
  rw [← hcount, hs.starts_eq s.1, hcount]

/-- Histories with the same events for each task start the same children, perhaps in another order.
-/
theorem perm_children (hs : h.SamePerTask h') : h.children.Perm h'.children := by
  rw [children_eq, children_eq]
  exact hs.perm_starts.map _

/-! ## What both histories tell -/

/-- The other history is as coherent: for each event the rules look at the same ones before it. -/
theorem coherent (hs : h.SamePerTask h') (hc : h.Coherent) : h'.Coherent where
  created_once := by
    have hids := hc.created_once
    rwa [createdIds, hs.created_eq] at hids
  refers_open before' e after' heq task href := by
    have hconcerns := HistoryEvent.concerns_of_refersTo href
    obtain ⟨before, after, rfl, hbefore⟩ :=
      exists_split_of_filter_eq (hs.concerning task) heq hconcerns
    obtain ⟨hid, hopen⟩ := hc.refers_open before e after rfl task href
    refine ⟨mem_createdIds_of_concerning hbefore.symm hid, ?_⟩
    intro c hmem hclose
    have hrefers := (HistoryEvent.closes_iff.1 hclose).1
    exact hopen c (mem_of_filter_eq hbefore hmem (HistoryEvent.concerns_of_refersTo hrefers)) hclose
  started_once := (hs.perm_starts.map _).nodup_iff.1 hc.started_once
  group_open before' e after' heq hsome := by
    obtain ⟨before, after, rfl, hbefore⟩ := exists_split_of_filter_eq hs.moving heq hsome
    intro c hmem hclose
    obtain ⟨s, hm, -⟩ := HistoryEvent.closesGroup_iff.1 hclose
    have hmoves : c.groupTarget?.isSome = true := by
      rw [HistoryEvent.groupTarget?_eq_some_iff.2 hm]
      rfl
    exact hc.group_open before e after rfl hsome c (mem_of_filter_eq hbefore hmem hmoves) hclose

/-- The other history depicts the same group. -/
theorem portrait_eq (hs : h.SamePerTask h') (x : Execution) (subTasks : Execution → List Task) :
    h.portrait x subTasks = h'.portrait x subTasks := by
  have htask : ∀ t : Task, h.taskNow subTasks t = h'.taskNow subTasks t := by
    intro t
    rw [taskNow, hs.lastTarget?_eq, hs.childOf?_eq, taskNow]
  rw [portrait, hs.created_eq, hs.groupStatus_eq, portrait, List.map_congr_left fun t _ => htask t]

end SamePerTask

end History

end HistoryTree
