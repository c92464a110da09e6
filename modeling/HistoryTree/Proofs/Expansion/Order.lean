import HistoryTree.Proofs.Expansion.Failure
import HistoryTree.Proofs.Expansion.Totals

/-!
# The order of the requests

An expansion asks for histories depth first: for that of an execution, and then, child by child in
the order of the events that start them, for those below it.  `Expansion.Awaits` says at which point
of this order the history of an execution is waited for, from the histories alone, without running
anything: all that is asked for before it is delivered, and every event on the way to it is applied.
It is met exactly by the requests that an expansion makes (`Trace.awaits_iff`).
-/

namespace HistoryTree

/-- A list that begins with `xs` and then `y` has got so far in its first part already, or in its
second part. -/
theorem concat_prefix_append_iff {α : Type} {xs as bs : List α} {y : α} :
    xs ++ [y] <+: as ++ bs ↔ xs ++ [y] <+: as ∨ ∃ ys, xs = as ++ ys ∧ ys ++ [y] <+: bs := by
  constructor
  · rintro ⟨zs, h⟩
    rw [List.append_assoc, List.singleton_append] at h
    rcases List.append_eq_append_iff.1 h with ⟨rest, rfl, hrest⟩ | ⟨ys, rfl, rfl⟩
    · cases rest with
      | nil => exact .inr ⟨[], by simp, zs, hrest⟩
      | cons z rest =>
        obtain ⟨rfl, -⟩ := List.cons.inj hrest
        exact .inl ⟨rest, by simp⟩
    · exact .inr ⟨ys, rfl, zs, by simp⟩
  · rintro (h | ⟨ys, rfl, h⟩)
    · exact List.prefix_append_of_prefix h
    · rw [List.append_assoc]
      exact (List.prefix_append_right_inj as).2 h

theorem concat_prefix_singleton_iff {α : Type} {xs : List α} {x y : α} :
    xs ++ [y] <+: [x] ↔ xs = [] ∧ y = x := by
  constructor
  · intro h
    have hone : xs ++ [y] = [] ++ [x] := by simpa using List.prefix_cons_iff.1 h
    obtain ⟨hxs, hlast⟩ := List.append_inj' hone rfl
    exact ⟨hxs, List.singleton_inj.1 hlast⟩
  · rintro ⟨rfl, rfl⟩
    exact List.prefix_refl [y]

namespace Expansion

/-- An execution and all executions below it on so many levels, depth first. -/
def depthFirst (answers : Execution → Except SourceError History) :
    Nat → Execution → List Execution
  | 0, _ => []
  | levels + 1, x =>
    match answers x with
    | .ok h => x :: h.children.flatMap (depthFirst answers levels)
    | .error _ => [x]

variable (limits : Limits) (answers : Execution → Except SourceError History)

/-- The executions below a chain of ancestors that are asked for on the way through an execution. -/
def asks (chain : List Execution) (x : Execution) : List Execution :=
  depthFirst answers (limits.maxDepth + 1 - chain.length) x

/-- In the course of projecting an execution below a chain of ancestors, the histories of `asked`
are delivered one after the other, and then that of `y` is waited for. -/
inductive Awaits : List Execution → Execution → List Execution → Execution → Prop
  /-- The history of the execution itself comes first. -/
  | here {chain : List Execution} {x : Execution} : limits.Permits chain x → Awaits chain x [] x
  /-- Below it, those of the children come, each with everything below it. -/
  | child {chain asked : List Execution} {x c y : Execution} {before after : History}
      {e : HistoryEvent} :
      limits.Permits chain x → answers x = .ok (before ++ e :: after) →
      Applies limits answers chain x before → before.Admits e → e.kind.child? = some c →
      Awaits (x :: chain) c asked y →
      Awaits chain x (x :: before.children.flatMap (asks limits answers (x :: chain)) ++ asked) y

end Expansion

namespace Trace

open Expansion (applyAll below Accepted Applies Awaits asks depthFirst)

variable {project : Execution → Trace TaskGroup} {p q : Projection} {x y c : Execution}
  {h before : History} {e : HistoryEvent} {asked xs : List Execution} {limits : Limits}
  {answers : Execution → Except SourceError History} {chain : List Execution} {g : TaskGroup}

/-! ## The requests of a history -/

/-- One event asks for what the child asks for that it starts. -/
theorem prefix_asked_step (hp : p.Depicts x h (tasksOf project)) (hc : h.Coherent) :
    xs ++ [y] <+: (applyAll .standard project [e] p).asked ↔
      ∃ c, h.Admits e ∧ e.kind.child? = some c ∧ xs ++ [y] <+: (project c).asked := by
  have hstarts : ∀ c, h.Admits e → e.kind.child? = some c →
      (applyAll .standard project [e] p).asked = (project c).asked := by
    intro c ha hchild
    obtain ⟨task, hm⟩ := HistoryEvent.exists_starts_of_child? hchild
    rw [step_of_starts hp ha hm]
    cases hg : (project c).result with
    | ok g => rw [bind_of_ok hg, asked_pure, List.append_nil]
    | error halt => rw [bind_of_error hg]
  constructor
  · intro hxs
    rcases History.admits_or_breaks h e with ha | ⟨cause, hb⟩
    · cases hchild : e.kind.child? with
      | none =>
        obtain ⟨q, hdispatch, -⟩ := hp.dispatch_of_admits hc ha hchild
        rw [step_of_applied hdispatch] at hxs
        simp at hxs
      | some c => exact ⟨c, ha, rfl, hstarts c ha hchild ▸ hxs⟩
    · rw [step_of_breaks hp hc hb] at hxs
      simp at hxs
  · rintro ⟨c, ha, hchild, hxs⟩
    rwa [hstarts c ha hchild]

/-- A history asks for what its children ask for, one after the other, as far as its events are
applied. -/
theorem prefix_asked_applyAll :
    xs ++ [y] <+: (applyAll .standard project h (.start x)).asked ↔
      ∃ before e after c ys, h = before ++ e :: after ∧
        (∃ q, (applyAll .standard project before (.start x)).result = .ok q) ∧ before.Admits e ∧
        e.kind.child? = some c ∧ xs = (before.children.flatMap fun c => (project c).asked) ++ ys ∧
        ys ++ [y] <+: (project c).asked := by
  constructor
  · intro hxs
    induction h using List.reverseRecOn generalizing xs with
    | nil => simp [applyAll_nil] at hxs
    | append_singleton h e ih =>
      -- a request of the history without its last event
      have earlier : xs ++ [y] <+: (applyAll .standard project h (.start x)).asked →
          ∃ before e' after c ys, h ++ [e] = before ++ e' :: after ∧
            (∃ q, (applyAll .standard project before (.start x)).result = .ok q) ∧
            before.Admits e' ∧ e'.kind.child? = some c ∧
            xs = (before.children.flatMap fun c => (project c).asked) ++ ys ∧
            ys ++ [y] <+: (project c).asked := by
        intro hxs
        obtain ⟨before, e', after, c, ys, rfl, hrest⟩ := ih hxs
        exact ⟨before, e', after ++ [e], c, ys, by simp, hrest⟩
      rw [applyAll_append] at hxs
      cases hq : (applyAll .standard project h (.start x)).result with
      | error halt =>
        rw [bind_of_error hq] at hxs
        exact earlier hxs
      | ok q =>
        obtain ⟨hc, -, hdepicts⟩ := depicts_of_applyAll hq
        rw [bind_of_ok hq] at hxs
        rcases concat_prefix_append_iff.1 hxs with hxs | ⟨ys, rfl, hys⟩
        · exact earlier hxs
        · obtain ⟨c, ha, hchild, hys⟩ := (prefix_asked_step hdepicts hc).1 hys
          exact ⟨h, e, [], c, ys, rfl, ⟨q, hq⟩, ha, hchild, by rw [asked_applyAll hq], hys⟩
  · rintro ⟨before, e, after, c, ys, rfl, ⟨q, hq⟩, ha, hchild, rfl, hys⟩
    obtain ⟨hc, -, hdepicts⟩ := depicts_of_applyAll hq
    have hstep := (prefix_asked_step hdepicts hc).2 ⟨c, ha, hchild, hys⟩
    rw [applyAll_append, bind_of_ok hq, asked_applyAll hq]
    refine concat_prefix_append_iff.2 (.inr ⟨ys, rfl, ?_⟩)
    rw [applyAll_cons]
    cases hq' : (applyAll .standard project [e] q).result with
    | ok q' =>
      rw [bind_of_ok hq']
      exact List.prefix_append_of_prefix hstep
    | error halt =>
      rw [bind_of_error hq']
      exact hstep

/-! ## The requests of an execution -/

/-- An execution that is accepted asks for everything below it. -/
theorem asked_of_accepted (hx : Accepted limits answers chain x) :
    (below .standard limits (ask answers) chain x).asked = asks limits answers chain x := by
  induction hx with
  | @intro chain x h hpermits hanswer hc hchildren ih =>
    obtain ⟨g, hg⟩ := exists_below_eq_ok_iff_accepted.2
      (Accepted.intro hpermits hanswer hc hchildren)
    have hlevels : limits.maxDepth + 1 - chain.length
        = limits.maxDepth + 1 - (x :: chain).length + 1 := by
      have := hpermits.1
      rw [List.length_cons]
      omega
    rw [asked_below hg hanswer, asks, hlevels, depthFirst, hanswer, List.flatMap_congr ih]
    rfl

/-- Behind the guards, an execution asks for its own history first, and then for what its events
ask for. -/
theorem asked_of_permits (hpermits : limits.Permits chain x) :
    (below .standard limits (ask answers) chain x).asked = x ::
      match answers x with
      | .ok h => (applyAll .standard (below .standard limits (ask answers) (x :: chain)) h
          (.start x)).asked
      | .error _ => [] := by
  rw [below_of_permits hpermits]
  cases hanswer : answers x with
  | error e =>
    have hask : ask answers x = ⟨.error (.failed (.source e)), [x]⟩ := by rw [ask, hanswer]
    rw [hask, bind_of_error rfl]
  | ok h =>
    have hask : ask answers x = ⟨.ok h, [x]⟩ := by rw [ask, hanswer]
    rw [hask, bind_of_ok rfl]
    cases hq : (applyAll .standard (below .standard limits (ask answers) (x :: chain)) h
        (.start x)).result with
    | ok q =>
      rw [bind_of_ok hq, asked_pure, List.append_nil]
      rfl
    | error halt =>
      rw [bind_of_error hq]
      rfl

theorem flatMap_asked_of_applies (happlies : Applies limits answers chain x before) :
    (before.children.flatMap fun c => (below .standard limits (ask answers) (x :: chain) c).asked)
      = before.children.flatMap (asks limits answers (x :: chain)) :=
  List.flatMap_congr fun c hmem => asked_of_accepted (happlies.2 c hmem)

/-- What is awaited at a point is asked for there. -/
theorem prefix_asked_of_awaits (hy : Awaits limits answers chain x asked y) :
    asked ++ [y] <+: (below .standard limits (ask answers) chain x).asked := by
  induction hy with
  | here hpermits =>
    rw [asked_of_permits hpermits]
    exact List.prefix_append [_] _
  | @child chain asked x c y before after e hpermits hanswer happlies ha hchild _ ih =>
    rw [asked_of_permits hpermits, hanswer, ← flatMap_asked_of_applies happlies, List.cons_append,
      List.cons_append]
    refine (List.prefix_cons_inj x).2 (prefix_asked_applyAll.2 ?_)
    exact ⟨before, e, after, c, asked, rfl, exists_applyAll_iff_applies.2 happlies, ha, hchild, rfl,
      ih⟩

/-- What is asked for at a point is awaited there. -/
theorem awaits_of_prefix_asked
    (hy : asked ++ [y] <+: (below .standard limits (ask answers) chain x).asked) :
    Awaits limits answers chain x asked y := by
  -- each child has one level less
  induction hlevels : limits.maxDepth + 1 - chain.length generalizing chain x asked with
  | zero =>
    rw [below_of_tooDeep (by omega)] at hy
    simp at hy
  | succ levels ih =>
    rcases permits_or limits chain x with hpermits | hdeep | ⟨hdepth, hdetect, hcycle⟩
    · rw [asked_of_permits hpermits] at hy
      change asked ++ [y] <+: [x] ++ _ at hy
      rcases concat_prefix_append_iff.1 hy with hy | ⟨ys, rfl, hys⟩
      · obtain ⟨rfl, rfl⟩ := concat_prefix_singleton_iff.1 hy
        exact .here hpermits
      · cases hanswer : answers x with
        | error e => simp [hanswer] at hys
        | ok h =>
          rw [hanswer] at hys
          obtain ⟨before, e, after, c, rest, rfl, hq, ha, hchild, rfl, hlast⟩ :=
            prefix_asked_applyAll.1 hys
          have happlies := exists_applyAll_iff_applies.1 hq
          rw [flatMap_asked_of_applies happlies]
          refine .child hpermits hanswer happlies ha hchild (ih hlast ?_)
          rw [List.length_cons]
          omega
    · rw [below_of_tooDeep hdeep] at hy
      simp at hy
    · rw [below_of_cycle hdepth hdetect hcycle] at hy
      simp at hy

/-- The executions that are waited for are those that an expansion asks for, in this order. -/
theorem awaits_iff : Awaits limits answers chain x asked y ↔
    asked ++ [y] <+: (below .standard limits (ask answers) chain x).asked :=
  ⟨prefix_asked_of_awaits, awaits_of_prefix_asked⟩

end Trace

end HistoryTree
