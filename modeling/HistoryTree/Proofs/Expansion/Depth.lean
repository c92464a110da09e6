import HistoryTree.Proofs.Expansion.Cycles
import Mathlib.Data.Set.Card

/-!
# How deep executions are nested

Raising the limit of nesting changes nothing but the failures at the limit: what a projection
leads to with a lower limit it leads to with a higher one (`Session.project_with_higher_limit`).

Where executions below themselves are refused, the limit matters only as far as the source has
histories.  The executions above an execution are all different then, and the source served the
history of each of them, so there are at most as many as it serves histories at all
(`Trace.length_le_of_nodup`).  With a limit that high, no projection nests too deep, and a still
higher one makes no difference (`Session.project_with_few_histories`).
-/

namespace HistoryTree

/-- The limits with another limit of nesting. -/
def Limits.upTo (limits : Limits) (depth : Nat) : Limits := { limits with maxDepth := depth }

/-- The executions of which a source serves the history. -/
def Source.served (answers : Execution → Except SourceError History) : Set Execution :=
  { x | ∃ h, answers x = .ok h }

namespace Trace

open Expansion (applyAll expand below)

variable {registry : Registry} {limits : Limits} {fetch : Execution → Trace History}
  {answers : Execution → Except SourceError History} {chain : List Execution} {x y : Execution}
  {m m' n : Nat}

/-! ## Higher limits -/

/-- With a higher limit a projection leads to the same, unless it nests too deep. -/
theorem below_with_higher_limit (hle : m ≤ m') (x : Execution) :
    AgreesUnless (IsTooDeep (limits.upTo m)) _ (below registry (limits.upTo m) fetch [] x)
      (below registry (limits.upTo m') fetch [] x) := by
  have hlooser : Looser (IsTooDeep (limits.upTo m)) (limits.upTo m) (limits.upTo m')
      (m + 1) (m' + 1) [] [] := by
    refine ⟨Nat.succ_le_succ hle, .inr fun y => ⟨y, rfl⟩, ?_, fun hd => .inl ⟨hd, rfl⟩⟩
    exact fun hd => ⟨hd, List.Subset.refl []⟩
  exact expand_agreesUnless hlooser x

/-! ## Few histories -/

/-- Different executions that all have a history are no more than there are histories. -/
theorem length_le_of_nodup (hN : (Source.served answers).encard ≤ n) (hnodup : chain.Nodup)
    (hserved : ∀ y ∈ chain, y ∈ Source.served answers) : chain.length ≤ n := by
  have hsub : (chain.toFinset : Set Execution) ⊆ Source.served answers := by
    intro y hy
    exact hserved y (by simpa using hy)
  have hcard : (chain.length : ℕ∞) ≤ n :=
    calc (chain.length : ℕ∞) = (chain.toFinset : Set Execution).encard := by
          rw [Set.encard_coe_eq_coe_finsetCard, List.toFinset_card_of_nodup hnodup]
      _ ≤ (Source.served answers).encard := Set.encard_le_encard hsub
      _ ≤ n := hN
  exact_mod_cast hcard

/-- Where cycles are refused, no execution nests too deep below different executions that all
have a history, if the limit admits as many as there are histories. -/
theorem below_ne_tooDeep (hr : registry.ReportsNoDepth) (hd : limits.detectCycles = true)
    (hN : (Source.served answers).encard ≤ limits.maxDepth) (hnodup : chain.Nodup)
    (hserved : ∀ y ∈ chain, y ∈ Source.served answers) :
    (below registry limits (ask answers) chain x).result ≠ .error (.failed (.tooDeep y n)) := by
  -- each child has one level less
  induction hlevels : limits.maxDepth + 1 - chain.length generalizing chain x with
  | zero =>
    have := length_le_of_nodup hN hnodup hserved
    omega
  | succ levels ih =>
    intro hfail
    rcases permits_or limits chain x with hpermits | hdeep | ⟨hdepth, -, hcycle⟩
    · rw [below_of_permits hpermits, result_bind_eq_error_iff] at hfail
      rcases hfail with hfail | ⟨h, hanswer, hfail⟩
      · exact result_ask_ne_guard rfl x hfail
      · rw [result_bind_eq_error_iff] at hfail
        rcases hfail with hfail | ⟨p, -, hfail⟩
        · obtain ⟨before, c, -, hchild⟩ := asksFor_of_guard (hr y n) rfl hfail
          -- the execution itself is new to the chain, and its history was served
          have hnodup' : (x :: chain).Nodup := List.nodup_cons.2 ⟨hpermits.2 hd, hnodup⟩
          have hserved' : ∀ z ∈ x :: chain, z ∈ Source.served answers := by
            intro z hz
            rcases List.mem_cons.1 hz with rfl | hz
            · exact ⟨h, result_ask_eq_ok_iff.1 hanswer⟩
            · exact hserved z hz
          refine ih hnodup' hserved' ?_ hchild
          rw [List.length_cons]
          omega
        · cases hfail
    · have := length_le_of_nodup hN hnodup hserved
      omega
    · rw [below_of_cycle hdepth hd hcycle] at hfail
      cases hfail

end Trace

namespace Session

variable {σ : Type} {source : Source σ} {answers : Execution → Except SourceError History}
  {registry : Registry} {limits : Limits} {s : Session σ}

/-- Unless it is found too deep, an execution is projected alike under every higher limit. -/
theorem same_of_no_tooDeep (hs : source.Serves s.source answers) (registry : Registry)
    (limits : Limits) (x : Execution) {m m' : Nat} (hle : m ≤ m')
    (hnot : ∀ y s', project source registry (limits.upTo m) x s
      ≠ .error (.failed (.tooDeep y m)) s') :
    project source registry (limits.upTo m') x s = project source registry (limits.upTo m) x s := by
  simp only [project, Expansion.project_eq_below, below_eq_replay hs] at hnot ⊢
  rcases Trace.below_with_higher_limit hle x with ⟨halt, hfail, y, rfl⟩ | hsame
  · exact absurd (replay_of_error hfail) (hnot y _)
  · rw [hsame]

/-- A projection that does not nest too deep is the same with any higher limit, with the same
requests. -/
theorem project_with_higher_limit (hs : source.Serves s.source answers) (registry : Registry)
    (limits : Limits) (x : Execution) {m m' : Nat} (hle : m ≤ m')
    (hnot : ∀ y n s', project source registry (limits.upTo m) x s
      ≠ .error (.failed (.tooDeep y n)) s') :
    project source registry (limits.upTo m') x s = project source registry (limits.upTo m) x s :=
  same_of_no_tooDeep hs registry limits x hle fun y s' => hnot y m s'

/-- With no more histories than levels, nothing lies too deep: each execution on a chain has another
history. -/
theorem project_ne_tooDeep (hs : source.Serves s.source answers) (hr : registry.ReportsNoDepth)
    (limits : Limits) (hd : limits.detectCycles = true)
    (hN : (Source.served answers).encard ≤ limits.maxDepth) (x y : Execution) (n : Nat)
    (s' : Session σ) :
    project source registry limits x s ≠ .error (.failed (.tooDeep y n)) s' := by
  intro hfail
  rw [project, Expansion.project_eq_below, below_eq_replay hs, replay_eq_error_iff] at hfail
  exact Trace.below_ne_tooDeep hr hd hN List.nodup_nil (by simp) hfail.1

/-- Where executions below themselves are refused, no projection nests too deep with a limit as
high as the number of executions that have a history, and all such limits lead to the same. -/
theorem project_with_few_histories (hs : source.Serves s.source answers)
    (hr : registry.ReportsNoDepth) (hd : limits.detectCycles = true) {N : Nat}
    (hN : (Source.served answers).encard ≤ N) (x : Execution) :
    (∀ m, N ≤ m → ∀ y n s', project source registry (limits.upTo m) x s
      ≠ .error (.failed (.tooDeep y n)) s') ∧
    (∀ m m', N ≤ m → N ≤ m' →
      project source registry (limits.upTo m) x s
        = project source registry (limits.upTo m') x s) := by
  have hnot : ∀ m, N ≤ m → ∀ y n s', project source registry (limits.upTo m) x s
      ≠ .error (.failed (.tooDeep y n)) s' := by
    intro m hm y n s'
    have hm' : (Source.served answers).encard ≤ (limits.upTo m).maxDepth :=
      hN.trans (by exact_mod_cast hm)
    exact project_ne_tooDeep hs hr (limits.upTo m) hd hm' x y n s'
  refine ⟨hnot, ?_⟩
  intro m m' hm hm'
  rcases Nat.le_total m m' with hle | hle
  · exact (same_of_no_tooDeep hs registry limits x hle fun y s' => hnot m hm y m s').symm
  · exact same_of_no_tooDeep hs registry limits x hle fun y s' => hnot m' hm' y m' s'

end Session

namespace Memory

/-- The circle of two executions closes below a limit of one level, so no higher limit changes
anything. -/
theorem circle_with_higher_limit :
    Session.project fetch .standard (Limits.upTo {} 16) ⟨"circle", "1"⟩ (.start circle)
      = Session.project fetch .standard (Limits.upTo {} 1) ⟨"circle", "1"⟩ (.start circle) := by
  refine Session.project_with_higher_limit circle.serves .standard {} _ (by decide) ?_
  intro y n s' hfail
  have hcycle : Session.project fetch .standard (Limits.upTo {} 1) ⟨"circle", "1"⟩ (.start circle)
      = .error (.failed (.cycle ⟨"circle", "1"⟩)) _ := rfl
  rw [hcycle] at hfail
  cases hfail

/-- The execution that starts itself is the only one with a history. -/
theorem encard_served_circle : (Source.served circle.answers).encard ≤ 1 := by
  have hsub : Source.served circle.answers ⊆ {⟨"circle", "1"⟩} := by
    rintro x ⟨h, hx⟩
    by_contra hne
    have hnone : circle.history? x = none := by
      rw [circle, history?_insert, if_neg (by simpa using hne)]
      rfl
    rw [answers, hnone] at hx
    cases hx
  exact (Set.encard_le_encard hsub).trans (Set.encard_singleton _).le

theorem circle_with_few_histories :
    (∀ m, 1 ≤ m → ∀ y n s', Session.project fetch .standard (Limits.upTo {} m) ⟨"circle", "1"⟩
      (.start circle) ≠ .error (.failed (.tooDeep y n)) s') ∧
    (∀ m m', 1 ≤ m → 1 ≤ m' →
      Session.project fetch .standard (Limits.upTo {} m) ⟨"circle", "1"⟩ (.start circle)
        = Session.project fetch .standard (Limits.upTo {} m') ⟨"circle", "1"⟩ (.start circle)) :=
  Session.project_with_few_histories circle.serves Registry.standard_reportsNoDepth rfl
    (by exact_mod_cast encard_served_circle) _

end Memory

end HistoryTree
