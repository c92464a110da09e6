import HistoryTree.Proofs.History.Portrait
import Mathlib.Data.List.Forall2

/-!
# Histories that go on

A history that goes on takes nothing back.  What it told about a task before is an earlier view of
what it tells in the end: the task keeps its id and name, its status only moves forward, its
sub-tasks stay once they are there, and once it is closed nothing about it changes.  One more event
does so to each task (`History.Admits.taskNow_earlierThan`), hence so does the rest of a coherent
history (`History.Coherent.portrait_earlierThan`).
-/

namespace HistoryTree

/-- A status that can be reached in two moves can be reached in one. -/
theorem TaskStatus.canMoveTo_trans {s t u : TaskStatus} (hst : s.canMoveTo t = true)
    (htu : t.canMoveTo u = true) : s.canMoveTo u = true := by
  simp only [canMoveTo, Bool.and_eq_true, Bool.or_eq_true, beq_iff_eq, decide_eq_true_eq]
    at hst htu ⊢
  obtain ⟨hopen, rfl | hlt⟩ := hst
  · exact htu
  · obtain ⟨-, rfl | hlt'⟩ := htu
    · exact ⟨hopen, .inr hlt⟩
    · exact ⟨hopen, .inr (Nat.lt_trans hlt hlt')⟩

/-- A task as it may have been before it came to be another. -/
structure Task.EarlierThan (t u : Task) : Prop where
  id_eq : t.id = u.id
  name_eq : t.name = u.name
  /-- The status is the later one, or can still move to it. -/
  status_leads : t.status = u.status ∨ t.status.canMoveTo u.status = true
  subTasks_kept : t.subTasks = none ∨ t.subTasks = u.subTasks
  eq_of_isTerminal : t.isTerminal = true → t = u

/-- A group as it may have been before it came to be another: its tasks are earlier views of the
first tasks of the other. -/
structure TaskGroup.EarlierThan (g g' : TaskGroup) : Prop where
  execution_eq : g.execution = g'.execution
  tasks_earlier : ∃ first rest, g'.tasks = first ++ rest ∧
    List.Forall₂ Task.EarlierThan g.tasks first
  status_kept : g.status = .running ∨ g.status = g'.status

namespace Task.EarlierThan

variable {t u v : Task}

@[refl] theorem refl (t : Task) : t.EarlierThan t :=
  ⟨rfl, rfl, .inl rfl, .inr rfl, fun _ => rfl⟩

theorem trans (htu : t.EarlierThan u) (huv : u.EarlierThan v) : t.EarlierThan v where
  id_eq := htu.id_eq.trans huv.id_eq
  name_eq := htu.name_eq.trans huv.name_eq
  status_leads := by
    rcases htu.status_leads with heq | hmove
    · rw [heq]
      exact huv.status_leads
    · rcases huv.status_leads with heq' | hmove'
      · exact .inr (heq' ▸ hmove)
      · exact .inr (TaskStatus.canMoveTo_trans hmove hmove')
  subTasks_kept := by
    rcases htu.subTasks_kept with hnone | heq
    · exact .inl hnone
    · rw [heq]
      exact huv.subTasks_kept
  eq_of_isTerminal hterm := by
    obtain rfl := htu.eq_of_isTerminal hterm
    exact huv.eq_of_isTerminal hterm

end Task.EarlierThan

namespace History

variable {h p rest : History} {e : HistoryEvent} {t : Task} {x : Execution}
  {subTasks : Execution → List Task}

/-! ## One more event -/

/-- An event for which there is room moves its task forward and leaves the others. -/
theorem Admits.taskNow_earlierThan (ha : h.Admits e) (ht : t ∈ h.created) :
    (h.taskNow subTasks t).EarlierThan (taskNow (h ++ [e]) subTasks t) := by
  cases href : e.refersTo t.id with
  | false => rw [taskNow_append_of_not_refersTo href]
  | true =>
    have hopen : (h.taskNow subTasks t).isTerminal = false :=
      isTerminal_taskNow_eq_false subTasks ht (ha.refers_open t.id href).2
    have hclosed : ∀ u : Task, (h.taskNow subTasks t).isTerminal = true →
        h.taskNow subTasks t = u := by
      intro u hterm
      rw [hopen] at hterm
      cases hterm
    rcases HistoryEvent.moves_or_starts_of_refersTo href with ⟨next, hm⟩ | ⟨child, hm⟩
    · rw [taskNow_append_of_moves hm]
      exact ⟨rfl, rfl, .inr (HistoryEvent.canMoveTo_of_moves hm hopen), .inr rfl, hclosed _⟩
    · have hnew := ha.started_new t.id child hm
      have hnone : (h.taskNow subTasks t).subTasks = none := by
        show (h.childOf? t.id).map subTasks = none
        rw [childOf?_eq_none_iff.2 hnew, Option.map_none]
      rw [taskNow_append_of_starts hm hnew]
      exact ⟨rfl, rfl, .inr (TaskStatus.canMoveTo_running hopen), .inl hnone, hclosed _⟩

/-- An event for which there is room moves an execution only while it is running. -/
theorem Admits.groupStatus_kept (ha : h.Admits e) :
    h.groupStatus = .running ∨ h.groupStatus = groupStatus (h ++ [e]) := by
  cases hs : e.groupTarget? with
  | none => exact .inr (groupStatus_append_of_none hs).symm
  | some s =>
    have hopen := ha.group_open s (HistoryEvent.groupTarget?_eq_some_iff.1 hs)
    exact .inl (groupStatus_eq_running hopen)

/-! ## The rest of a history -/

/-- A task is in no later state than after more events. -/
theorem Coherent.taskNow_earlierThan (hc : Coherent (p ++ rest)) (ht : t ∈ p.created) :
    (p.taskNow subTasks t).EarlierThan (taskNow (p ++ rest) subTasks t) := by
  induction rest using List.reverseRecOn with
  | nil => rw [List.append_nil]
  | append_singleton rest e ih =>
    rw [← List.append_assoc] at hc ⊢
    obtain ⟨hc, ha⟩ := coherent_append_singleton.1 hc
    have ht' : t ∈ created (p ++ rest) := by
      rw [created_append]
      exact List.mem_append_left _ ht
    exact (ih hc).trans (ha.taskNow_earlierThan ht')

/-- The status of the group is kept by more events, unless it was running. -/
theorem Coherent.groupStatus_kept (hc : Coherent (p ++ rest)) :
    p.groupStatus = .running ∨ p.groupStatus = groupStatus (p ++ rest) := by
  induction rest using List.reverseRecOn with
  | nil => exact .inr (by rw [List.append_nil])
  | append_singleton rest e ih =>
    rw [← List.append_assoc] at hc ⊢
    obtain ⟨hc, ha⟩ := coherent_append_singleton.1 hc
    rcases ih hc with hrun | heq
    · exact .inl hrun
    · rw [heq]
      exact ha.groupStatus_kept

/-- The group that the beginning of a coherent history depicts is an earlier view of the one that
the whole history depicts. -/
theorem Coherent.portrait_earlierThan (hc : Coherent (p ++ rest)) :
    (p.portrait x subTasks).EarlierThan (portrait (p ++ rest) x subTasks) where
  execution_eq := rfl
  tasks_earlier := by
    refine ⟨p.created.map (taskNow (p ++ rest) subTasks),
      (created rest).map (taskNow (p ++ rest) subTasks), ?_, ?_⟩
    · rw [← List.map_append, ← created_append]
      rfl
    · show List.Forall₂ _ (p.created.map (p.taskNow subTasks)) _
      rw [List.forall₂_map_left_iff, List.forall₂_map_right_iff, List.forall₂_same]
      exact fun t ht => hc.taskNow_earlierThan ht
  status_kept := hc.groupStatus_kept

end History

end HistoryTree
