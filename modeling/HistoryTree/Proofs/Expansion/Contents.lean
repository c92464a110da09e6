import HistoryTree.Proofs.Expansion.Acceptance
import Mathlib.Data.List.Forall2

/-!
# What a projected group shows

A group that was projected can be read without knowing how: there is one task for each
event that creates one, in order, and `History.Tells` says field by field what the history
tells about it (`History.Coherent.forall₂_tells`); the group is closed as the one event says
that closes it (`History.Coherent.groupStatus_cases`).  The sub-tasks of a task are those of
its child execution, projected below its parent or on its own (`Trace.below_of_subset`).
-/

namespace HistoryTree

namespace History

/-- What a history tells about a task, given the task as it was created; `projected` says to
which tasks a child execution is projected. -/
structure Tells (h : History) (projected : Execution → List Task → Prop) (first t : Task) :
    Prop where
  id_eq : t.id = first.id
  name_eq : t.name = first.name
  /-- The status is the one to which the last event moves the task that refers to it. -/
  status_of_last : ∀ e, (h.filter (·.refersTo first.id)).getLast? = some e →
    e.meaning.target? = some t.status
  status_of_none : (∀ e ∈ h, ¬ e.refersTo first.id) → t.status = first.status
  /-- A closed task was closed by one event, the last that refers to it. -/
  isTerminal_iff : t.isTerminal = true ↔ ∃ e, h.filter (·.closes first.id) = [e] ∧
    (h.filter (·.refersTo first.id)).getLast? = some e
  subTasks_isSome_iff : t.subTasks.isSome = true ↔
    ∃ e ∈ h, ∃ child, e.kind = .childStarted first.id child
  subTasks_eq : ∀ e ∈ h, ∀ child, e.kind = .childStarted first.id child →
    ∃ ts, t.subTasks = some ts ∧ projected child ts

variable {h : History} {x : Execution} {t : Task} {subTasks : Execution → List Task}
  {projected : Execution → List Task → Prop}

/-- The last target of a task is that of the last event that refers to it. -/
theorem lastTarget?_of_last {e : HistoryEvent} {task : EventId}
    (hlast : (h.filter (·.refersTo task)).getLast? = some e) :
    h.lastTarget? task = e.meaning.target? := by
  rw [lastTarget?, hlast, Option.bind_some]

/-- A task that no event refers to has no last target. -/
theorem lastTarget?_of_none {task : EventId} (hnone : ∀ e ∈ h, ¬ e.refersTo task) :
    h.lastTarget? task = none := by
  have hfilter : h.filter (·.refersTo task) = [] := List.filter_eq_nil_iff.2 hnone
  rw [lastTarget?, hfilter]
  rfl

/-- A task of a portrait is as the history tells, if its sub-tasks are. -/
theorem Coherent.tells (hc : h.Coherent) (ht : t ∈ h.created)
    (hchildren : ∀ c ∈ h.children, projected c (subTasks c)) :
    h.Tells projected t (h.taskNow subTasks t) where
  id_eq := rfl
  name_eq := rfl
  status_of_last e hlast := by
    have href : e.refersTo t.id = true := (List.mem_filter.1 (List.mem_of_getLast? hlast)).2
    obtain ⟨s, hs⟩ := HistoryEvent.exists_target_of_refersTo href
    show _ = some ((h.lastTarget? t.id).getD t.status)
    rw [lastTarget?_of_last hlast, hs, Option.getD_some]
  status_of_none hnone := by
    show (h.lastTarget? t.id).getD t.status = t.status
    rw [lastTarget?_of_none hnone, Option.getD_none]
  isTerminal_iff := hc.isTerminal_taskNow_iff ht
  subTasks_isSome_iff := by
    rw [subTasks_taskNow_isSome_iff, List.mem_map]
    simp only [← HistoryEvent.meaning_eq_starts_iff]
    constructor
    · rintro ⟨⟨task, child⟩, hstart, rfl⟩
      obtain ⟨e, he, hm⟩ := mem_starts_iff.1 hstart
      exact ⟨e, he, child, hm⟩
    · rintro ⟨e, he, child, hm⟩
      exact ⟨(t.id, child), mem_starts_iff.2 ⟨e, he, hm⟩, rfl⟩
  subTasks_eq e he child hkind := by
    have hm := HistoryEvent.meaning_eq_starts_iff.2 hkind
    refine ⟨subTasks child, ?_, ?_⟩
    · show (h.childOf? t.id).map subTasks = _
      rw [hc.childOf?_of_starts he hm, Option.map_some]
    · have hchild : e.kind.child? = some child := by rw [hkind]; rfl
      exact hchildren child (List.mem_filterMap.2 ⟨e, he, hchild⟩)

/-- The tasks of a portrait are as the history tells, one for each event that creates one. -/
theorem Coherent.forall₂_tells (hc : h.Coherent)
    (hchildren : ∀ c ∈ h.children, projected c (subTasks c)) :
    List.Forall₂ (h.Tells projected) h.created (h.portrait x subTasks).tasks := by
  show List.Forall₂ _ h.created (h.created.map (h.taskNow subTasks))
  rw [List.forall₂_map_right_iff, List.forall₂_same]
  exact fun t ht => hc.tells ht hchildren

/-- The status of an execution is the one with which the one event closes it that does, if any. -/
theorem Coherent.groupStatus_cases (hc : h.Coherent) :
    (∃ e, h.filter (·.closesGroup) = [e] ∧ e.groupTarget? = some h.groupStatus) ∨
      (h.filter (·.closesGroup) = [] ∧ h.groupStatus = .running) := by
  by_cases hopen : ∀ e ∈ h, ¬ e.closesGroup
  · exact .inr ⟨List.filter_eq_nil_iff.2 hopen, groupStatus_eq_running hopen⟩
  · push Not at hopen
    obtain ⟨e, he, hclose⟩ := hopen
    obtain ⟨s, hm, hs⟩ := HistoryEvent.closesGroup_iff.1 hclose
    refine .inl ⟨e, hc.filter_closesGroup he hclose, ?_⟩
    rw [hc.groupStatus_of_closesGroup he hm hs, HistoryEvent.groupTarget?_eq_some_iff.2 hm]

end History

namespace Trace

open Expansion (below)

variable {registry : Registry} {limits : Limits} {fetch : Execution → Trace History}
  {chain chain' : List Execution} {x : Execution} {g : TaskGroup}

/-- What is projected below a chain of ancestors is projected alike below fewer of them. -/
theorem below_of_subset (hg : (below registry limits fetch chain x).result = .ok g)
    (hsub : chain' ⊆ chain) (hlength : chain'.length ≤ chain.length) :
    below registry limits fetch chain' x = below registry limits fetch chain x := by
  have hlooser : Looser (fun _ => True) limits limits (limits.maxDepth + 1 - chain.length)
      (limits.maxDepth + 1 - chain'.length) chain chain' :=
    ⟨by omega, .inr fun _ => trivial, fun hd => ⟨hd, hsub⟩, fun _ => .inr fun _ => trivial⟩
  rcases expand_agreesUnless hlooser x with ⟨halt, hfail, -⟩ | hsame
  · rw [← below, hg] at hfail
    cases hfail
  · exact hsame

end Trace

namespace Session

variable {σ : Type} {source : Source σ} {answers : Execution → Except SourceError History}
  {limits : Limits} {s s' : Session σ} {chain : List Execution} {x : Execution} {g : TaskGroup}

/-- Whatever else is asked for before, an execution is projected to these tasks below a chain of
ancestors. -/
def ProjectsTo (source : Source σ) (answers : Execution → Except SourceError History)
    (limits : Limits) (chain : List Execution) (x : Execution) (tasks : List Task) : Prop :=
  ∀ s : Session σ, source.Serves s.source answers → ∃ g s',
    Expansion.below .standard limits (fetch source limits false) chain x s = .ok g s' ∧
      g.tasks = tasks

/-- What the trace of an expansion leads to, every session leads to. -/
theorem projectsTo_of_trace
    (hg : (Expansion.below .standard limits (Trace.ask answers) chain x).result = .ok g) :
    ProjectsTo source answers limits chain x g.tasks := by
  intro s hs
  have hbelow : Expansion.below .standard limits (fetch source limits false) chain x s = _ :=
    below_eq_replay hs false chain x
  rw [replay_of_ok hg] at hbelow
  exact ⟨g, _, hbelow, rfl⟩

/-- A projected group shows what the history of its execution tells. -/
theorem shows_history (hs : source.Serves s.source answers)
    (hg : project source .standard limits x s = .ok g s') :
    ∃ h, answers x = .ok h ∧ g.execution = x ∧
      List.Forall₂ (h.Tells fun child tasks =>
        ProjectsTo source answers limits [x] child tasks ∧
          ProjectsTo source answers limits [] child tasks) h.created g.tasks ∧
      ((∃ e, h.filter (·.closesGroup) = [e] ∧ e.groupTarget? = some g.status) ∨
        (h.filter (·.closesGroup) = [] ∧ g.status = .running)) := by
  rw [project, Expansion.project_eq_below, below_eq_replay hs, replay_eq_ok_iff] at hg
  obtain ⟨h, -, hanswer, hc, hchildren, rfl⟩ := Trace.eq_portrait_of_below hg.1
  refine ⟨h, hanswer, rfl, hc.forall₂_tells ?_, hc.groupStatus_cases⟩
  intro child hchild
  obtain ⟨g, hg⟩ := hchildren child hchild
  rw [Trace.tasksOf_of_ok hg]
  refine ⟨projectsTo_of_trace hg, projectsTo_of_trace ?_⟩
  rw [Trace.below_of_subset hg (List.nil_subset _) (Nat.zero_le _), hg]

end Session

/-- The tree of the order shows the history of the order. -/
theorem Memory.order_shows_history :
    ∃ g, (∃ s', Session.project fetch .standard {} ⟨"order", "1"⟩ (.start order) = .ok g s') ∧
      ∃ h, order.answers ⟨"order", "1"⟩ = .ok h ∧ g.execution = ⟨"order", "1"⟩ ∧
        List.Forall₂ (h.Tells fun child tasks =>
          Session.ProjectsTo fetch order.answers {} [⟨"order", "1"⟩] child tasks ∧
            Session.ProjectsTo fetch order.answers {} [] child tasks) h.created g.tasks ∧
        ((∃ e, h.filter (·.closesGroup) = [e] ∧ e.groupTarget? = some g.status) ∨
          (h.filter (·.closesGroup) = [] ∧ g.status = .running)) :=
  ⟨_, ⟨_, rfl⟩, Session.shows_history (s := .start order) order.serves rfl⟩

end HistoryTree
