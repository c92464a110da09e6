import HistoryTree.Proofs.History.Meaning
import Mathlib.Data.List.Induction
import Mathlib.Data.List.Nodup

/-!
# Coherent histories

A history is `Coherent` when it tells one story: tasks are created once, an event refers
only to a task that is there and not closed, a task starts one child execution, and an
execution that closed is not moved again.  The rules are about the history as a whole;
`coherent_append_singleton` reads them event by event, where `Admits` says what the events
before an event must leave room for, and `Breaks` what the event is refused for otherwise.
-/

namespace HistoryTree

namespace HistoryEvent

/-- The task that an event creates. -/
def created? (e : HistoryEvent) : Option Task :=
  match e.meaning with
  | .creates t => some t
  | _ => none

/-- Whether an event refers to a task. -/
def refersTo (e : HistoryEvent) (task : EventId) : Bool := e.kind.reference? = some task

/-- Whether an event closes a task. -/
def closes (e : HistoryEvent) (task : EventId) : Bool :=
  e.refersTo task && e.meaning.target?.any (·.isTerminal)

/-- The task that starts a child execution at an event, with the child. -/
def start? (e : HistoryEvent) : Option (EventId × Execution) :=
  match e.meaning with
  | .starts task child => some (task, child)
  | _ => none

/-- The status to which an event moves the execution itself. -/
def groupTarget? (e : HistoryEvent) : Option GroupStatus :=
  match e.meaning with
  | .movesGroup next => some next
  | _ => none

/-- Whether an event closes the execution itself. -/
def closesGroup (e : HistoryEvent) : Bool := e.groupTarget?.any (·.isTerminal)

end HistoryEvent

namespace History

/-- The tasks that the events of a history create, as they begin. -/
def created (h : History) : List Task := h.filterMap HistoryEvent.created?

/-- The ids of the tasks that the events of a history create. -/
def createdIds (h : History) : List EventId := h.created.map (·.id)

/-- The child executions that are started, each with its task. -/
def starts (h : History) : List (EventId × Execution) := h.filterMap HistoryEvent.start?

/-- A history that tells one story. -/
structure Coherent (h : History) : Prop where
  /-- No two events create a task with the same id. -/
  created_once : h.createdIds.Nodup
  /-- An event refers to a task that an event before it created and none before it closed. -/
  refers_open : ∀ (before : History) e after, h = before ++ e :: after → ∀ task, e.refersTo task →
    task ∈ before.createdIds ∧ ∀ c ∈ before, ¬ c.closes task
  /-- No task starts a child execution twice. -/
  started_once : (h.starts.map (·.1)).Nodup
  /-- Once the execution closed, no event moves it. -/
  group_open : ∀ (before : History) e after, h = before ++ e :: after → e.groupTarget?.isSome →
    ∀ c ∈ before, ¬ c.closesGroup

/-- What the events before an event must leave room for. -/
structure Admits (before : History) (e : HistoryEvent) : Prop where
  created_new : ∀ t, e.meaning = .creates t → e.id ∉ before.createdIds
  refers_open : ∀ task, e.refersTo task →
    task ∈ before.createdIds ∧ ∀ c ∈ before, ¬ c.closes task
  started_new : ∀ task child, e.meaning = .starts task child → task ∉ before.starts.map (·.1)
  group_open : ∀ s, e.meaning = .movesGroup s → ∀ c ∈ before, ¬ c.closesGroup

/-- What an event is refused for after the events before it; a closed task comes before a
second child. -/
inductive Breaks (before : History) (e : HistoryEvent) : ProjectionError → Prop
  | duplicate {t : Task} : e.meaning = .creates t → e.id ∈ before.createdIds →
      Breaks before e (.duplicateTask e.id e.id)
  | unknown {task : EventId} : e.refersTo task → task ∉ before.createdIds →
      Breaks before e (.unknownReference e.id task)
  | closed {task : EventId} {c : HistoryEvent} {s next : TaskStatus} : e.refersTo task →
      task ∈ before.createdIds → c ∈ before → c.closes task → c.meaning.target? = some s →
      e.meaning.target? = some next → Breaks before e (.violation e.id (.taskMove s next))
  | startedAgain {task : EventId} {child : Execution} : e.meaning = .starts task child →
      task ∈ before.createdIds → (∀ c ∈ before, ¬ c.closes task) →
      task ∈ before.starts.map (·.1) → Breaks before e (.violation e.id (.startedChild task))
  | groupClosed {c : HistoryEvent} {s next : GroupStatus} : e.meaning = .movesGroup next →
      c ∈ before → c.meaning = .movesGroup s → s.isTerminal →
      Breaks before e (.violation e.id (.groupMove s next))

end History

/-! ## Events by their meaning -/

namespace HistoryEvent

variable {e : HistoryEvent} {t : Task} {task r : EventId} {child : Execution}

theorem created?_eq_some_iff : e.created? = some t ↔ e.meaning = .creates t := by
  rw [created?]
  cases e.meaning <;> simp

theorem start?_eq_some_iff : e.start? = some (task, child) ↔ e.meaning = .starts task child := by
  rw [start?]
  cases e.meaning <;> simp

theorem groupTarget?_eq_some_iff {s : GroupStatus} :
    e.groupTarget? = some s ↔ e.meaning = .movesGroup s := by
  rw [groupTarget?]
  cases e.meaning <;> simp

theorem refersTo_iff : e.refersTo task = true ↔ e.meaning.reference? = some task := by
  rw [refersTo, decide_eq_true_eq, reference?_eq]

theorem refersTo_of_creates (hm : e.meaning = .creates t) : e.refersTo r = false := by
  rw [Bool.eq_false_iff, Ne, refersTo_iff, hm]
  simp [Meaning.reference?]

theorem closes_iff : e.closes task = true ↔
    e.refersTo task = true ∧ ∃ s, e.meaning.target? = some s ∧ s.isTerminal = true := by
  rw [closes, Bool.and_eq_true, Option.any_eq_true]

theorem closesGroup_iff :
    e.closesGroup = true ↔ ∃ s, e.meaning = .movesGroup s ∧ s.isTerminal = true := by
  simp only [closesGroup, Option.any_eq_true, groupTarget?_eq_some_iff]

theorem refersTo_of_moves {next : TaskStatus} (hm : e.meaning = .moves task next) :
    e.refersTo task = true := by
  rw [refersTo_iff, hm]
  rfl

theorem refersTo_of_starts (hm : e.meaning = .starts task child) : e.refersTo task = true := by
  rw [refersTo_iff, hm]
  rfl

/-- An event that refers to a task moves it or starts its child execution. -/
theorem moves_or_starts_of_refersTo (h : e.refersTo task = true) :
    (∃ next, e.meaning = .moves task next) ∨ ∃ child, e.meaning = .starts task child := by
  rw [refersTo_iff] at h
  cases hm : e.meaning with
  | moves r next =>
    rw [hm] at h
    cases h
    exact .inl ⟨next, rfl⟩
  | starts r child =>
    rw [hm] at h
    cases h
    exact .inr ⟨child, rfl⟩
  | creates _ => rw [hm] at h; cases h
  | movesGroup _ => rw [hm] at h; cases h
  | nothing => rw [hm] at h; cases h

/-- An event refers to one task at most. -/
theorem eq_of_refersTo (h : e.refersTo task = true) (h' : e.refersTo r = true) : r = task := by
  rw [refersTo_iff] at h h'
  rw [h] at h'
  exact (Option.some.inj h').symm

/-- An event that refers to a task moves it to some status. -/
theorem exists_target_of_refersTo (h : e.refersTo task = true) :
    ∃ s, e.meaning.target? = some s := by
  rcases moves_or_starts_of_refersTo h with ⟨next, hm⟩ | ⟨child, hm⟩
  · exact ⟨next, by rw [hm]; rfl⟩
  · exact ⟨.running, by rw [hm]; rfl⟩

end HistoryEvent

namespace History

variable {h before : History} {e : HistoryEvent} {task : EventId}

theorem created_append (h₁ h₂ : History) : created (h₁ ++ h₂) = created h₁ ++ created h₂ :=
  List.filterMap_append

theorem createdIds_append (h₁ h₂ : History) :
    createdIds (h₁ ++ h₂) = createdIds h₁ ++ createdIds h₂ := by
  rw [createdIds, created_append, List.map_append]
  rfl

theorem starts_append (h₁ h₂ : History) : starts (h₁ ++ h₂) = starts h₁ ++ starts h₂ :=
  List.filterMap_append

theorem createdIds_singleton_of_creates {t : Task} (hm : e.meaning = .creates t) :
    createdIds [e] = [e.id] := by
  have hcreated : e.created? = some t := HistoryEvent.created?_eq_some_iff.2 hm
  simp [createdIds, created, hcreated, (HistoryEvent.of_meaning_creates hm).1]

theorem created_singleton_of_not_creates (hm : ∀ t, e.meaning ≠ .creates t) : created [e] = [] := by
  have hcreated : e.created? = none := by
    cases he : e.created? with
    | none => rfl
    | some t => exact absurd (HistoryEvent.created?_eq_some_iff.1 he) (hm t)
  simp [created, hcreated]

/-! ## Histories event by event -/

/-- A property of each event and the events before it, in a history with one more event. -/
theorem forall_split_append_singleton {P : History → HistoryEvent → Prop} :
    (∀ (before : History) e' after, h ++ [e] = before ++ e' :: after → P before e') ↔
      (∀ (before : History) e' after, h = before ++ e' :: after → P before e') ∧ P h e := by
  constructor
  · intro hall
    refine ⟨?_, hall h e [] rfl⟩
    intro before e' after heq
    exact hall before e' (after ++ [e]) (by rw [heq, List.append_assoc, List.cons_append])
  · rintro ⟨hall, hlast⟩ before e' after heq
    rcases List.eq_nil_or_concat after with rfl | ⟨after', last, rfl⟩
    · obtain ⟨rfl, hcons⟩ := List.append_inj' heq rfl
      cases hcons
      exact hlast
    · have hsplit : h ++ [e] = (before ++ e' :: after') ++ [last] := by
        rw [heq, List.append_assoc, List.cons_append, List.concat_eq_append]
      obtain ⟨heq', -⟩ := List.append_inj' hsplit rfl
      exact hall before e' after' heq'

/-- The history without events is coherent. -/
theorem coherent_nil : Coherent [] where
  created_once := List.nodup_nil
  refers_open before e after heq := by simp at heq
  started_once := List.nodup_nil
  group_open before e after heq := by simp at heq

/-- Each task is created once exactly if this was so before the last event, and this event creates
none again. -/
theorem nodup_createdIds_append_singleton : (createdIds (h ++ [e])).Nodup ↔
    h.createdIds.Nodup ∧ ∀ t, e.meaning = .creates t → e.id ∉ h.createdIds := by
  rw [createdIds_append]
  cases hm : e.meaning with
  | creates t =>
    rw [createdIds_singleton_of_creates hm, ← List.concat_eq_append, List.nodup_concat]
    simp [and_comm]
  | _ =>
    have hnone : createdIds [e] = [] := by
      rw [createdIds, created_singleton_of_not_creates (by simp [hm])]
      rfl
    simp [hnone]

/-- For each task, a child is started once exactly if this was so before the last event, and this
event starts none again. -/
theorem nodup_starts_append_singleton : ((starts (h ++ [e])).map (·.1)).Nodup ↔
    (h.starts.map (·.1)).Nodup ∧
      ∀ task child, e.meaning = .starts task child → task ∉ h.starts.map (·.1) := by
  rw [starts_append]
  cases hs : e.start? with
  | none =>
    have hnone : ∀ task child, e.meaning ≠ .starts task child := by
      intro task child hm
      rw [HistoryEvent.start?_eq_some_iff.2 hm] at hs
      cases hs
    simp [starts, hs, hnone]
  | some s =>
    obtain ⟨task, child⟩ := s
    have hm := HistoryEvent.start?_eq_some_iff.1 hs
    have hone : starts [e] = [(task, child)] := by simp [starts, hs]
    rw [hone, List.map_append, List.map_singleton, ← List.concat_eq_append, List.nodup_concat, hm]
    constructor
    · rintro ⟨hnew, hnodup⟩
      refine ⟨hnodup, ?_⟩
      intro task' child' heq
      cases heq
      exact hnew
    · rintro ⟨hnodup, hnew⟩
      exact ⟨hnew task child rfl, hnodup⟩

/-- A history with one more event is coherent when it was before and leaves room for the event. -/
theorem coherent_append_singleton : Coherent (h ++ [e]) ↔ h.Coherent ∧ h.Admits e := by
  have hcreated := nodup_createdIds_append_singleton (h := h) (e := e)
  have hstarted := nodup_starts_append_singleton (h := h) (e := e)
  have hrefers := forall_split_append_singleton (h := h) (e := e) (P := fun before e' =>
    ∀ task, e'.refersTo task → task ∈ before.createdIds ∧ ∀ c ∈ before, ¬ c.closes task)
  have hgroup := forall_split_append_singleton (h := h) (e := e) (P := fun before e' =>
    e'.groupTarget?.isSome → ∀ c ∈ before, ¬ c.closesGroup)
  constructor
  · rintro ⟨h₁, h₂, h₃, h₄⟩
    refine ⟨⟨(hcreated.1 h₁).1, (hrefers.1 h₂).1, (hstarted.1 h₃).1, (hgroup.1 h₄).1⟩,
      ⟨(hcreated.1 h₁).2, (hrefers.1 h₂).2, (hstarted.1 h₃).2, ?_⟩⟩
    intro s hm
    exact (hgroup.1 h₄).2 (by rw [HistoryEvent.groupTarget?_eq_some_iff.2 hm]; rfl)
  · rintro ⟨⟨h₁, h₂, h₃, h₄⟩, ⟨a₁, a₂, a₃, a₄⟩⟩
    refine ⟨hcreated.2 ⟨h₁, a₁⟩, hrefers.2 ⟨h₂, a₂⟩, hstarted.2 ⟨h₃, a₃⟩, hgroup.2 ⟨h₄, ?_⟩⟩
    intro hsome
    obtain ⟨s, hs⟩ := Option.isSome_iff_exists.1 hsome
    exact a₄ s (HistoryEvent.groupTarget?_eq_some_iff.1 hs)

/-- A part of a coherent history that stands at its beginning is coherent. -/
theorem Coherent.of_append {h₁ h₂ : History} (hc : Coherent (h₁ ++ h₂)) : h₁.Coherent := by
  induction h₂ using List.reverseRecOn with
  | nil => rwa [List.append_nil] at hc
  | append_singleton h₂ e ih =>
    rw [← List.append_assoc] at hc
    exact ih (coherent_append_singleton.1 hc).1

/-- In a coherent history, every task that an event refers to was created. -/
theorem Coherent.mem_createdIds (hc : h.Coherent) (he : e ∈ h) (href : e.refersTo task = true) :
    task ∈ h.createdIds := by
  obtain ⟨before, after, rfl⟩ := List.append_of_mem he
  rw [createdIds_append]
  exact List.mem_append_left _ ((hc.refers_open before e after rfl task href).1)

/-- After a task is closed no event refers to it. -/
theorem Coherent.not_refersTo_of_closes {after : History} {c : HistoryEvent} (hc : h.Coherent)
    (heq : h = before ++ c :: after) (hclose : c.closes task = true) (he : e ∈ after) :
    e.refersTo task = false := by
  cases href : e.refersTo task with
  | false => rfl
  | true =>
    obtain ⟨between, rest, rfl⟩ := List.append_of_mem he
    have hsplit : h = (before ++ c :: between) ++ e :: rest := by simp [heq]
    exact absurd hclose ((hc.refers_open _ e rest hsplit task href).2 c (by simp))

/-- A task that an event refers to is there and open, or the event is refused for it. -/
theorem refers_open_or_breaks (before : History) (href : e.refersTo task = true) :
    (task ∈ before.createdIds ∧ ∀ c ∈ before, ¬ c.closes task) ∨ ∃ cause, Breaks before e cause := by
  by_cases hid : task ∈ before.createdIds
  · by_cases hclosed : ∃ c ∈ before, c.closes task = true
    · obtain ⟨c, hc, hclose⟩ := hclosed
      obtain ⟨-, s, hs, -⟩ := HistoryEvent.closes_iff.1 hclose
      obtain ⟨next, hnext⟩ := HistoryEvent.exists_target_of_refersTo href
      exact .inr ⟨_, .closed href hid hc hclose hs hnext⟩
    · refine .inl ⟨hid, ?_⟩
      intro c hc hclose
      exact hclosed ⟨c, hc, hclose⟩
  · exact .inr ⟨_, .unknown href hid⟩

/-- There is room for an event that refers to an open task, if it starts no second child. -/
theorem admits_of_refersTo (href : e.refersTo task = true)
    (hopen : task ∈ before.createdIds ∧ ∀ c ∈ before, ¬ c.closes task)
    (hstart : ∀ child, e.meaning = .starts task child → task ∉ before.starts.map (·.1)) :
    before.Admits e where
  created_new t hm := by
    rw [HistoryEvent.refersTo_of_creates hm] at href
    cases href
  refers_open r hr := by
    obtain rfl := HistoryEvent.eq_of_refersTo href hr
    exact hopen
  started_new r child hm := by
    obtain rfl := HistoryEvent.eq_of_refersTo href (HistoryEvent.refersTo_of_starts hm)
    exact hstart child hm
  group_open s hm := by
    rw [HistoryEvent.refersTo_iff, hm] at href
    cases href

/-- There is room for an event that refers to no task, if the task that it creates is new and the
execution that it moves is open. -/
theorem admits_of_no_reference (href : e.meaning.reference? = none)
    (hnew : ∀ t, e.meaning = .creates t → e.id ∉ before.createdIds)
    (hopen : ∀ s, e.meaning = .movesGroup s → ∀ c ∈ before, ¬ c.closesGroup) :
    before.Admits e where
  created_new := hnew
  refers_open task hr := by
    rw [HistoryEvent.refersTo_iff, href] at hr
    cases hr
  started_new task child hm := by
    rw [hm] at href
    cases href
  group_open := hopen

/-- An event that finds no room is refused for a stated cause. -/
theorem admits_or_breaks (before : History) (e : HistoryEvent) :
    before.Admits e ∨ ∃ cause, Breaks before e cause := by
  cases hm : e.meaning with
  | creates t =>
    by_cases hid : e.id ∈ before.createdIds
    · exact .inr ⟨_, .duplicate hm hid⟩
    · exact .inl (admits_of_no_reference (by rw [hm]; rfl) (fun _ _ => hid) (by simp [hm]))
  | moves task next =>
    have href := HistoryEvent.refersTo_of_moves hm
    rcases refers_open_or_breaks before href with hopen | hbreaks
    · exact .inl (admits_of_refersTo href hopen (by simp [hm]))
    · exact .inr hbreaks
  | starts task child =>
    have href := HistoryEvent.refersTo_of_starts hm
    rcases refers_open_or_breaks before href with hopen | hbreaks
    · by_cases hstarted : task ∈ before.starts.map (·.1)
      · exact .inr ⟨_, .startedAgain hm hopen.1 hopen.2 hstarted⟩
      · exact .inl (admits_of_refersTo href hopen fun _ _ => hstarted)
    · exact .inr hbreaks
  | movesGroup next =>
    by_cases hclosed : ∃ c ∈ before, c.closesGroup = true
    · obtain ⟨c, hc, hclose⟩ := hclosed
      obtain ⟨s, hs, hterm⟩ := HistoryEvent.closesGroup_iff.1 hclose
      exact .inr ⟨_, .groupClosed hm hc hs hterm⟩
    · refine .inl (admits_of_no_reference (by rw [hm]; rfl) (by simp [hm]) ?_)
      intro _ _ c hc hclose
      exact hclosed ⟨c, hc, hclose⟩
  | nothing => exact .inl (admits_of_no_reference (by rw [hm]; rfl) (by simp [hm]) (by simp [hm]))

end History

end HistoryTree
