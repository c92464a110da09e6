import HistoryTree.Proofs.Expansion.Subtrees
import HistoryTree.Proofs.Expansion.Success
import HistoryTree.Proofs.History.Interleaving

/-!
# One history in place of another

When the history of an execution is exchanged and its new history is coherent and starts no other
children, the execution is projected to the group that the new history depicts, as long as the
children are projected as before (`Trace.below_of_exchange`).

So events of different tasks may change places wherever a run reads a history
(`Trace.below_of_samePerTask`).  In particular, an execution whose events are reordered in this way
is projected as before, and to the same group (`Session.project_eq_ok_iff_of_samePerTask`).
-/

namespace HistoryTree

namespace History

variable {h : History} {x c : Execution} {subTasks subTasks' : Execution → List Task}

theorem exists_started_of_mem_children (hc : c ∈ h.children) :
    ∃ e ∈ h, ∃ task, e.kind = .childStarted task c := by
  obtain ⟨e, he, hchild⟩ := List.mem_filterMap.1 hc
  obtain ⟨task, hm⟩ := HistoryEvent.exists_starts_of_child? hchild
  exact ⟨e, he, task, HistoryEvent.meaning_eq_starts_iff.1 hm⟩

/-- The group that a history depicts takes only the sub-tasks of its children. -/
theorem portrait_congr (hsub : ∀ c ∈ h.children, subTasks c = subTasks' c) :
    h.portrait x subTasks = h.portrait x subTasks' := by
  have htask : ∀ t : Task, h.taskNow subTasks t = h.taskNow subTasks' t := by
    intro t
    have hmap : (h.childOf? t.id).map subTasks = (h.childOf? t.id).map subTasks' := by
      cases hchild : h.childOf? t.id with
      | none => rfl
      | some c =>
        obtain ⟨before, after, hsplit, -⟩ := List.lookup_eq_some_iff.1 hchild
        have hmem : c ∈ h.children := by
          rw [children_eq, hsplit]
          simp
        rw [Option.map_some, Option.map_some, hsub c hmem]
    rw [taskNow, hmap, taskNow]
  rw [portrait, portrait, List.map_congr_left fun t _ => htask t]

end History

namespace Trace

open Expansion (below Reaches)

variable {limits : Limits} {answers answers' : Execution → Except SourceError History}
  {chain : List Execution} {x : Execution} {h h' : History} {g : TaskGroup}

/-- An execution with another history, which is coherent and starts no other children, is projected
to what that history depicts, if the children are projected as before. -/
theorem below_of_exchange (hg : (below .standard limits (ask answers) chain x).result = .ok g)
    (hanswer : answers x = .ok h) (hanswer' : answers' x = .ok h') (hc' : h'.Coherent)
    (hsub : h'.children ⊆ h.children)
    (hbelow : ∀ c ∈ h'.children, ∀ g',
      (below .standard limits (ask answers) (x :: chain) c).result = .ok g' →
        (below .standard limits (ask answers') (x :: chain) c).result = .ok g') :
    (below .standard limits (ask answers') chain x).result
      = .ok (h'.portrait x (tasksOf (below .standard limits (ask answers) (x :: chain)))) := by
  obtain ⟨hpermits, -, hchildren, -⟩ := (below_eq_ok_iff hanswer).1 hg
  refine (below_eq_ok_iff hanswer').2 ⟨hpermits, hc', ?_, ?_⟩
  · intro c hc
    obtain ⟨g', hg'⟩ := hchildren c (hsub hc)
    exact ⟨g', hbelow c hc g' hg'⟩
  · refine History.portrait_congr fun c hc => ?_
    obtain ⟨g', hg'⟩ := hchildren c (hsub hc)
    rw [tasksOf_of_ok hg', tasksOf_of_ok (hbelow c hc g' hg')]

/-- A projection depends only on the histories of the executions that it reaches, and of these only
on the events of each task. -/
theorem below_of_samePerTask (hsame : ∀ way chain' y h, Reaches answers chain x way chain' y →
      answers y = .ok h → ∃ h', answers' y = .ok h' ∧ h.SamePerTask h')
    (hg : (below .standard limits (ask answers) chain x).result = .ok g) :
    (below .standard limits (ask answers') chain x).result = .ok g := by
  induction accepted_of_below hg generalizing g with
  | @intro chain x h _ hanswer hc _ ih =>
    obtain ⟨h', hanswer', hper⟩ := hsame [] chain x h (.refl chain x) hanswer
    rw [((below_eq_ok_iff hanswer).1 hg).2.2.2, hper.portrait_eq]
    have hsub : h'.children ⊆ h.children := hper.perm_children.symm.subset
    refine below_of_exchange hg hanswer hanswer' (hper.coherent hc) hsub ?_
    intro c hmem g' hg'
    have hmem' : c ∈ h.children := hsub hmem
    obtain ⟨e, he, task, hkind⟩ := History.exists_started_of_mem_children hmem'
    refine ih c hmem' ?_ hg'
    -- what the child reaches the execution reaches through the task that starts the child
    intro way chain' y h hreach
    exact hsame (task :: way) chain' y h (.start hanswer he hkind hreach)

end Trace

namespace Session

variable {σ σ' : Type} {source : Source σ} {source' : Source σ'}
  {drained drained' : Execution → Drained} {limits : Limits} {s : Session σ} {s' : Session σ'}
  {x : Execution} {h h' : History} {g : TaskGroup}

/-- A tree stays the same when one history is reordered and all others are kept. -/
theorem below_of_reordered (hx : drained x = .history h) (hx' : drained' x = .history h')
    (hrest : ∀ y ≠ x, drained' y = drained y) (hsame : h.SamePerTask h')
    (hg : (Expansion.below .standard limits (Trace.ask (answersOf drained)) [] x).result = .ok g) :
    (Expansion.below .standard limits (Trace.ask (answersOf drained')) [] x).result = .ok g := by
  refine Trace.below_of_samePerTask ?_ hg
  intro way chain y k _ hanswer
  by_cases hyx : y = x
  · subst hyx
    have hk : k = h := Except.ok.inj (hanswer.symm.trans (answersOf_eq_ok_iff.2 hx))
    exact ⟨h', answersOf_eq_ok_iff.2 hx', hk ▸ hsame⟩
  · exact ⟨k, by rw [answersOf_of_ne hrest y hyx, hanswer], .refl k⟩

/-- Of the order of events in the history of an execution only that of the events of each task
matters, with the order in which tasks are created and the events of the execution itself: the
execution is projected to the same group, or not at all. -/
theorem project_eq_ok_iff_of_samePerTask (hs : source.Yields s.source drained)
    (hs' : source'.Yields s'.source drained') (hx : drained x = .history h)
    (hx' : drained' x = .history h') (hrest : ∀ y ≠ x, drained' y = drained y)
    (hsame : h.SamePerTask h') (limits : Limits) (g : TaskGroup) :
    (∃ t, project source .standard limits x s = .ok g t) ↔
      ∃ t', project source' .standard limits x s' = .ok g t' := by
  rw [exists_project_eq_ok_iff hs, exists_project_eq_ok_iff hs']
  constructor
  · exact below_of_reordered hx hx' hrest hsame
  · exact below_of_reordered hx' hx (fun y hne => (hrest y hne).symm) hsame.symm

end Session

namespace Memory

/-- A bakery that has the given history of a cake, and the history of its delivery. -/
def bakery (cake : History) : Memory :=
  (empty.insert ⟨"delivery", "1"⟩ [.of ⟨1⟩ (.activityScheduled "acme.Drive")]).insert ⟨"cake", "1"⟩
    cake

/-- The history of a cake that is baked before it is delivered. -/
def cake : History :=
  [.of ⟨1⟩ .workflowStarted, .of ⟨2⟩ (.activityScheduled "acme.Bake"),
    .of ⟨3⟩ (.childInitiated "acme.Deliver"), .of ⟨4⟩ (.activityCompleted ⟨2⟩),
    .of ⟨5⟩ (.childStarted ⟨3⟩ ⟨"delivery", "1"⟩), .of ⟨6⟩ (.childCompleted ⟨3⟩)]

/-- The history of a cake of which the delivery is under way before it is baked. -/
def hurriedCake : History :=
  [.of ⟨2⟩ (.activityScheduled "acme.Bake"), .of ⟨3⟩ (.childInitiated "acme.Deliver"),
    .of ⟨5⟩ (.childStarted ⟨3⟩ ⟨"delivery", "1"⟩), .of ⟨7⟩ .decisionScheduled,
    .of ⟨6⟩ (.childCompleted ⟨3⟩), .of ⟨4⟩ (.activityCompleted ⟨2⟩), .of ⟨1⟩ .workflowStarted]

theorem drained_bakery_of_ne (h h' : History) :
    ∀ y : Execution, y ≠ ⟨"cake", "1"⟩ →
      Drained.ofAnswer ((bakery h').answers y) = .ofAnswer ((bakery h).answers y) := by
  intro y hne
  simp only [answers, bakery, history?_insert, if_neg hne]

/-- The two histories of the cake have the same events for each task. -/
theorem cake_samePerTask : cake.SamePerTask hurriedCake where
  creating := rfl
  concerning task := by
    by_cases hbake : task = ⟨2⟩
    · subst hbake
      rfl
    by_cases hdeliver : task = ⟨3⟩
    · subst hdeliver
      rfl
    have hnone : ∀ h ∈ [cake, hurriedCake], h.filter (·.concerns task) = [] := by
      simp [cake, hurriedCake, HistoryEvent.concerns, HistoryEvent.created?, HistoryEvent.refersTo,
        HistoryEvent.meaning, HistoryEvent.of, EventKind.reference?, Ne.symm hbake,
        Ne.symm hdeliver]
    rw [hnone cake (by simp), hnone hurriedCake (by simp)]
  moving := rfl

/-- The hurried cake leads to the same group. -/
theorem cake_projected_like_hurriedCake :
    ∃ g, (∃ t, Session.project fetch .standard {} ⟨"cake", "1"⟩ (.start (bakery cake)) = .ok g t) ∧
      ∃ t', Session.project fetch .standard {} ⟨"cake", "1"⟩ (.start (bakery hurriedCake))
        = .ok g t' := by
  obtain ⟨g, t, hrun⟩ : ∃ g t, Session.project fetch .standard {} ⟨"cake", "1"⟩
      (.start (bakery cake)) = .ok g t := ⟨_, _, rfl⟩
  refine ⟨g, ⟨t, hrun⟩, ?_⟩
  exact (Session.project_eq_ok_iff_of_samePerTask (bakery cake).serves.yields
    (bakery hurriedCake).serves.yields rfl rfl (drained_bakery_of_ne cake hurriedCake)
    cake_samePerTask {} g).1 ⟨t, hrun⟩

end Memory

end HistoryTree
