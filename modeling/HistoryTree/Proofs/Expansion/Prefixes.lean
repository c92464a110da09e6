import HistoryTree.Proofs.Expansion.Exchange
import HistoryTree.Proofs.History.Growth

/-!
# Executions at an earlier point

An execution that is projected could be projected at any point of its history before, and its group
was an earlier view of the later one (`Session.project_of_prefix`).

Its history is cut off, the histories of all others are not.  So it matters that an execution which
is projected is not met again below itself: its tree would be a proper part of itself
(`Trace.way_eq_nil_of_reaches_self`).
-/

namespace HistoryTree

theorem Task.size_le_sizes {t : Task} {ts : List Task} (ht : t ∈ ts) : t.size ≤ sizes ts := by
  induction ts with
  | nil => cases ht
  | cons u ts ih =>
    rw [sizes]
    rcases List.mem_cons.1 ht with rfl | ht
    · omega
    · have := ih ht
      omega

/-- The trees further down are smaller. -/
theorem Task.sizes_under? {ts us : List Task} {id : EventId} {way : List EventId}
    (h : under? ts (id :: way) = some us) : sizes us < sizes ts := by
  rw [under?] at h
  obtain ⟨t, hfind, h⟩ := Option.bind_eq_some_iff.1 h
  obtain ⟨subTasks, hsub, h⟩ := Option.bind_eq_some_iff.1 h
  have hsmaller : sizes subTasks < sizes ts := by
    have hle := size_le_sizes (List.mem_of_find?_eq_some hfind)
    rw [size_eq, children, hsub, Option.getD_some] at hle
    omega
  cases way with
  | nil =>
    cases h
    exact hsmaller
  | cons id' way => exact Nat.lt_trans (sizes_under? h) hsmaller

namespace Trace

open Expansion (below Reaches)

variable {limits : Limits} {answers answers' : Execution → Except SourceError History}
  {chain : List Execution} {x : Execution} {way : List EventId} {h p : History} {g : TaskGroup}

/-- An execution that is projected is not reached again below itself. -/
theorem way_eq_nil_of_reaches_self
    (hg : (below .standard limits (ask answers) [] x).result = .ok g)
    (hreach : Reaches answers [] x way chain x) : way = [] := by
  obtain ⟨g', hg', hunder⟩ := under?_of_reaches hreach hg
  -- what is reached there is projected to the same tree
  have hsame := below_of_subset hg' (List.nil_subset _) (Nat.zero_le _)
  rw [hsame, hg'] at hg
  cases hg
  cases way with
  | nil => rfl
  | cons id way => exact absurd (Task.sizes_under? hunder) (Nat.lt_irrefl _)

/-- An execution whose history is cut off is projected to an earlier view of its group. -/
theorem below_of_prefix (hg : (below .standard limits (ask answers) [] x).result = .ok g)
    (hanswer : answers x = .ok h) (hanswer' : answers' x = .ok p) (hp : p <+: h)
    (hrest : ∀ y ≠ x, answers' y = answers y) :
    ∃ g', (below .standard limits (ask answers') [] x).result = .ok g' ∧ g'.EarlierThan g := by
  obtain ⟨-, hc, -, hgroup⟩ := (below_eq_ok_iff hanswer).1 hg
  obtain ⟨rest, rfl⟩ := hp
  refine ⟨_, below_of_exchange hg hanswer hanswer' hc.of_append ?_ ?_, ?_⟩
  · rw [History.children_append]
    exact List.subset_append_left _ _
  · intro c hmem g' hg'
    obtain ⟨e, he, task, hkind⟩ := History.exists_started_of_mem_children hmem
    -- below a child nothing is cut off, for the execution itself is not reached there
    refine below_of_samePerTask ?_ hg'
    intro way chain y h hreach hy
    have hne : y ≠ x := by
      rintro rfl
      have hself := Reaches.start hanswer (List.mem_append_left rest he) hkind hreach
      exact absurd (way_eq_nil_of_reaches_self hg hself) (List.cons_ne_nil _ _)
    exact ⟨h, by rw [hrest y hne, hy], .refl h⟩
  · rw [hgroup]
    exact hc.portrait_earlierThan

end Trace

namespace Session

variable {σ σ' : Type} {source : Source σ} {source' : Source σ'}
  {drained drained' : Execution → Drained} {limits : Limits} {s t : Session σ} {s' : Session σ'}
  {x : Execution} {h p : History} {g : TaskGroup}

/-- An execution that is projected was so at each point of its history, to an earlier view of its
group. -/
theorem project_of_prefix (hs : source.Yields s.source drained)
    (hs' : source'.Yields s'.source drained') (hx : drained x = .history h)
    (hx' : drained' x = .history p) (hp : p <+: h) (hrest : ∀ y ≠ x, drained' y = drained y)
    (hg : project source .standard limits x s = .ok g t) :
    ∃ g' t', project source' .standard limits x s' = .ok g' t' ∧ g'.EarlierThan g := by
  have hbelow := (exists_project_eq_ok_iff hs).1 ⟨t, hg⟩
  obtain ⟨g', hg', hearlier⟩ := Trace.below_of_prefix hbelow (answersOf_eq_ok_iff.2 hx)
    (answersOf_eq_ok_iff.2 hx') hp (answersOf_of_ne hrest)
  obtain ⟨t', hproject⟩ := (exists_project_eq_ok_iff hs').2 hg'
  exact ⟨g', t', hproject, hearlier⟩

end Session

namespace Memory

/-- A cake of which the delivery has just begun; it is baked, but not yet delivered. -/
theorem cake_projected_before_delivery :
    ∃ g t, Session.project fetch .standard {} ⟨"cake", "1"⟩ (.start (bakery cake)) = .ok g t ∧
      ∃ g' t', Session.project fetch .standard {} ⟨"cake", "1"⟩ (.start (bakery (cake.take 5)))
        = .ok g' t' ∧ g'.EarlierThan g := by
  obtain ⟨g, t, hrun⟩ : ∃ g t, Session.project fetch .standard {} ⟨"cake", "1"⟩
      (.start (bakery cake)) = .ok g t := ⟨_, _, rfl⟩
  refine ⟨g, t, hrun, ?_⟩
  exact Session.project_of_prefix (bakery cake).serves.yields (bakery (cake.take 5)).serves.yields
    rfl rfl (List.take_prefix 5 cake) (drained_bakery_of_ne cake (cake.take 5)) hrun

end Memory

end HistoryTree
