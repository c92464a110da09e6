import HistoryTree.Proofs.Expansion.Guards
import HistoryTree.Proofs.Expansion.Success
import HistoryTree.Proofs.History.Offspring
import Mathlib.Data.List.Forall2

/-!
# What a run asks for and what its tree holds

A projection that succeeds loses nothing and doubles nothing: every history that it asked for stands
in the tree with each of its tasks, and every request but the first one belongs to a task that has
sub-tasks, be they none (`Session.tree_accounts_for_requests`).  The requests come in the order in
which children are started, and the tree lists tasks in the order in which they are created, so
only the numbers can be compared, not the places; `Accounts` adds them up along the run.
-/

namespace HistoryTree

/-- Requests led to histories with so many tasks altogether. -/
def Accounts (answers : Execution → Except SourceError History) (asked : List Execution)
    (tasks : Nat) : Prop :=
  ∃ hs : List History, asked.map answers = hs.map .ok ∧ (hs.map (·.created.length)).sum = tasks

section

variable {answers : Execution → Except SourceError History} {asked asked' : List Execution}
  {x : Execution} {h : History} {m n : Nat}

theorem accounts_nil : Accounts answers [] 0 := ⟨[], rfl, rfl⟩

/-- Requests account for the sum of what their parts account for. -/
theorem Accounts.append (hm : Accounts answers asked m) (hn : Accounts answers asked' n) :
    Accounts answers (asked ++ asked') (m + n) := by
  obtain ⟨hs, hanswers, rfl⟩ := hm
  obtain ⟨hs', hanswers', rfl⟩ := hn
  refine ⟨hs ++ hs', ?_, ?_⟩
  · rw [List.map_append, List.map_append, hanswers, hanswers']
  · rw [List.map_append, List.sum_append]

theorem Accounts.cons (hx : answers x = .ok h) (hn : Accounts answers asked n) :
    Accounts answers (x :: asked) (h.created.length + n) := by
  obtain ⟨hs, hanswers, rfl⟩ := hn
  refine ⟨h :: hs, ?_, ?_⟩
  · rw [List.map_cons, List.map_cons, hx, hanswers]
  · rw [List.map_cons, List.sum_cons]

end

namespace Trace

open Expansion (applyAll below)

variable {project : Execution → Trace TaskGroup} {x : Execution} {h : History} {q : Projection}
  {limits : Limits} {answers : Execution → Except SourceError History} {chain : List Execution}
  {g : TaskGroup}

/-- What is asked for while one event is applied. -/
theorem asked_step {p : Projection} {e : HistoryEvent} (hp : p.Depicts x h (tasksOf project))
    (hc : h.Coherent) (hq : (applyAll .standard project [e] p).result = .ok q) :
    (applyAll .standard project [e] p).asked
      = (History.children [e]).flatMap fun c => (project c).asked := by
  obtain ⟨ha, hchildren, -⟩ := depicts_of_step hp hc hq
  cases hchild : e.kind.child? with
  | none =>
    obtain ⟨q', hdispatch, -⟩ := hp.dispatch_of_admits hc ha hchild
    rw [step_of_applied hdispatch]
    simp [History.children, hchild]
  | some c =>
    obtain ⟨task, hm⟩ := HistoryEvent.exists_starts_of_child? hchild
    rw [History.children_singleton_of_starts hm] at hchildren ⊢
    obtain ⟨g, hg⟩ := hchildren c (List.mem_singleton_self c)
    rw [step_of_starts hp ha hm, bind_of_ok hg]
    simp

/-- While a history is applied, each child that it starts asks for its own. -/
theorem asked_applyAll (hq : (applyAll .standard project h (.start x)).result = .ok q) :
    (applyAll .standard project h (.start x)).asked
      = h.children.flatMap fun c => (project c).asked := by
  induction h using List.reverseRecOn generalizing q with
  | nil => rfl
  | append_singleton h e ih =>
    rw [applyAll_append, result_bind_eq_ok_iff] at hq
    obtain ⟨p, hp, hq⟩ := hq
    obtain ⟨hc, -, hdepicts⟩ := depicts_of_applyAll hp
    rw [applyAll_append, bind_of_ok hp, History.children_append, List.flatMap_append]
    show _ ++ (applyAll .standard project [e] p).asked = _
    rw [ih hp, asked_step hdepicts hc hq]

/-- An execution is asked for first, and then what is below its children, in order. -/
theorem asked_below (hg : (below .standard limits (ask answers) chain x).result = .ok g)
    (hanswer : answers x = .ok h) :
    (below .standard limits (ask answers) chain x).asked
      = x :: h.children.flatMap fun c => (below .standard limits (ask answers) (x :: chain) c).asked
    := by
  obtain ⟨hpermits, -⟩ := (below_eq_ok_iff hanswer).1 hg
  have hask : ask answers x = ⟨.ok h, [x]⟩ := by rw [ask, hanswer]
  rw [below_of_permits hpermits] at hg ⊢
  rw [hask, result_bind_of_ok rfl, result_bind_eq_ok_iff] at hg
  obtain ⟨q, hq, -⟩ := hg
  rw [hask, bind_of_ok rfl, bind_of_ok hq]
  show [x] ++ (_ ++ []) = _
  rw [List.append_nil, asked_applyAll hq]
  rfl

/-- The requests of a run account for a list of trees: the trees hold the tasks of all histories
that were asked for, and one task with sub-tasks for each of them but the first. -/
structure Balances (answers : Execution → Except SourceError History) (t : Trace TaskGroup)
    (tasks : List Task) : Prop where
  accounts : Accounts answers t.asked (Task.tally (fun _ => true) tasks)
  length_asked : t.asked.length = 1 + Task.tally (·.subTasks.isSome) tasks

theorem accounts_flatMap {cs : List Execution} {tasks : Execution → Nat}
    (hcs : ∀ c ∈ cs, Accounts answers (project c).asked (tasks c)) :
    Accounts answers (cs.flatMap fun c => (project c).asked) (cs.map tasks).sum := by
  induction cs with
  | nil => exact accounts_nil
  | cons c cs ih =>
    rw [List.flatMap_cons, List.map_cons, List.sum_cons]
    exact (hcs c List.mem_cons_self).append (ih fun c' hc' => hcs c' (List.mem_cons_of_mem c hc'))

theorem length_flatMap_asked {cs : List Execution} {expanded : Execution → Nat}
    (hcs : ∀ c ∈ cs, (project c).asked.length = 1 + expanded c) :
    (cs.flatMap fun c => (project c).asked).length = cs.length + (cs.map expanded).sum := by
  induction cs with
  | nil => rfl
  | cons c cs ih =>
    have hc := hcs c List.mem_cons_self
    have hrest := ih fun c' hc' => hcs c' (List.mem_cons_of_mem c hc')
    rw [List.flatMap_cons, List.length_append, hc, hrest, List.length_cons, List.map_cons,
      List.sum_cons]
    omega

/-- What a history leads to is accounted for, if what its children lead to is. -/
theorem balances_of_children (hg : (below .standard limits (ask answers) chain x).result = .ok g)
    (hanswer : answers x = .ok h)
    (hbelow : ∀ c ∈ h.children, ∀ g',
      (below .standard limits (ask answers) (x :: chain) c).result = .ok g' →
        Balances answers (below .standard limits (ask answers) (x :: chain) c) g'.tasks) :
    Balances answers (below .standard limits (ask answers) chain x) g.tasks := by
  have hasked := asked_below hg hanswer
  obtain ⟨-, hc, hchildren, rfl⟩ := (below_eq_ok_iff hanswer).1 hg
  have hbalances : ∀ c ∈ h.children,
      Balances answers (below .standard limits (ask answers) (x :: chain) c)
        (tasksOf (below .standard limits (ask answers) (x :: chain)) c) := by
    intro c hmem
    obtain ⟨g', hg'⟩ := hchildren c hmem
    rw [tasksOf_of_ok hg']
    exact hbelow c hmem g' hg'
  -- both counts fall apart into what the history itself adds and what its children do
  constructor
  · rw [hasked, hc.tally_portrait, List.countP_true]
    show Accounts answers _ ((h.created.map _).length + _)
    rw [List.length_map]
    exact (accounts_flatMap fun c hmem => (hbalances c hmem).accounts).cons hanswer
  · rw [hasked, hc.tally_portrait, hc.countP_subTasks, List.length_cons,
      length_flatMap_asked fun c hmem => (hbalances c hmem).length_asked]
    omega

/-- The tree of a projection balances with the requests that were made for it. -/
theorem balances_of_below (hg : (below .standard limits (ask answers) chain x).result = .ok g) :
    Balances answers (below .standard limits (ask answers) chain x) g.tasks := by
  induction accepted_of_below hg generalizing g with
  | intro _ hanswer _ _ ih =>
    exact balances_of_children hg hanswer fun c hmem g' hg' => ih c hmem hg'

end Trace

theorem map_drained {drained : Execution → Drained} {asked : List Execution} {hs : List History}
    (h : asked.map (answersOf drained) = hs.map .ok) : asked.map drained = hs.map .history := by
  rw [← List.forall₂_eq_eq_eq, List.forall₂_map_left_iff, List.forall₂_map_right_iff] at h ⊢
  exact h.imp fun _ _ => answersOf_eq_ok_iff.1

namespace Session

variable {σ : Type} {source : Source σ} {drained : Execution → Drained} {limits : Limits}
  {s s' : Session σ} {x : Execution} {g : TaskGroup}

/-- The tree of a projection holds each task of each history that was asked for, as often as it was
asked for, and each request after the first one belongs to one task with sub-tasks. -/
theorem tree_accounts_for_requests (hs : source.Yields s.source drained)
    (hg : project source .standard limits x s = .ok g s') :
    ∃ (asked : List Execution) (histories : List History), s'.fetched = s.fetched ++ asked ∧
      asked.map drained = histories.map .history ∧
      g.totalTasks = (histories.map (·.created.length)).sum ∧
      asked.length = 1 + g.walk.countP (·.2.subTasks.isSome) := by
  obtain ⟨hbelow, rfl⟩ := (project_eq_ok_iff hs).1 hg
  obtain ⟨⟨histories, hanswers, hsum⟩, hlength⟩ := Trace.balances_of_below hbelow
  refine ⟨_, histories, rfl, map_drained hanswers, ?_, ?_⟩
  · rw [TaskGroup.totalTasks_eq_tally, hsum]
  · rw [hlength, ← TaskGroup.countP_walk]

end Session

namespace Memory

/-- A tour takes the ferry twice, and the tree holds its tasks twice. -/
theorem tour_accounts_for_requests :
    ∃ g s', Session.project fetch .standard {} ⟨"tour", "1"⟩ (.start tour) = .ok g s' ∧
      ∃ (asked : List Execution) (histories : List History), s'.fetched = [] ++ asked ∧
        asked.map (fun y => Drained.ofAnswer (tour.answers y)) = histories.map .history ∧
        g.totalTasks = (histories.map (·.created.length)).sum ∧
        asked.length = 1 + g.walk.countP (·.2.subTasks.isSome) := by
  obtain ⟨g, s', hrun⟩ : ∃ g s', Session.project fetch .standard {} ⟨"tour", "1"⟩ (.start tour)
      = .ok g s' := ⟨_, _, rfl⟩
  exact ⟨g, s', hrun, Session.tree_accounts_for_requests tour.serves.yields hrun⟩

end Memory

end HistoryTree
