import HistoryTree.Proofs.Expansion.Acceptance

/-!
# What a projection fails for

A projection with the standard handlers fails for a fault of one execution: of the
projected one, or of one that is reached from it through children that are started properly
after events that were all applied (`Expansion.Descends`).  `Expansion.Fault` lists the faults
in the order in which they are looked for.  A projection that fails does so for such a
fault (`Trace.exists_fault_of_below`), and an error passes through the executions above
unchanged (`Trace.below_of_descends`).
-/

namespace HistoryTree

namespace Expansion

variable (limits : Limits) (answers : Execution → Except SourceError History)

/-- Below a chain of ancestors, the first events of an execution are all applied. -/
def Applies (chain : List Execution) (x : Execution) (before : History) : Prop :=
  before.Coherent ∧ ∀ c ∈ before.children, Accepted limits answers (x :: chain) c

/-- The executions that are entered below a root, with the chain of those above, as long as no
fault is found. -/
inductive Descends (root : Execution) : List Execution → Execution → Prop
  | root : Descends root [] root
  | child {chain : List Execution} {x c : Execution} {before after : History} {e : HistoryEvent} :
      Descends root chain x → limits.Permits chain x → answers x = .ok (before ++ e :: after) →
      Applies limits answers chain x before → before.Admits e → e.kind.child? = some c →
      Descends root (x :: chain) c

/-- What an execution itself is given up for below a chain of ancestors. -/
inductive Fault (chain : List Execution) (x : Execution) : ProjectionError → Prop
  | tooDeep : limits.maxDepth < chain.length → Fault chain x (.tooDeep x limits.maxDepth)
  | cycle : chain.length ≤ limits.maxDepth → limits.detectCycles = true → x ∈ chain →
      Fault chain x (.cycle x)
  | source {e : SourceError} : limits.Permits chain x → answers x = .error e →
      Fault chain x (.source e)
  /-- The first event that breaks with those before it. -/
  | event {before after : History} {e : HistoryEvent} {cause : ProjectionError} :
      limits.Permits chain x → answers x = .ok (before ++ e :: after) →
      Applies limits answers chain x before → before.Breaks e cause → Fault chain x cause

end Expansion

namespace Trace

open Expansion (applyAll below Applies Descends Fault)

variable {limits : Limits} {answers : Execution → Except SourceError History}
  {chain : List Execution} {x root c : Execution} {before after h : History} {e : HistoryEvent}
  {cause : ProjectionError} {halt : Halt}

/-- The events before one are applied exactly if they are coherent and their children are accepted.
-/
theorem exists_applyAll_iff_applies :
    (∃ q, (applyAll .standard (below .standard limits (ask answers) (x :: chain)) before
      (.start x)).result = .ok q) ↔ Applies limits answers chain x before := by
  simp only [exists_applyAll_eq_ok_iff, exists_below_eq_ok_iff_accepted, Applies]

/-! ## One execution -/

/-- Behind the guards, an execution fails with the history that is not delivered or with one of
its events. -/
theorem below_eq_error_iff_of_permits (hpermits : limits.Permits chain x) :
    (below .standard limits (ask answers) chain x).result = .error halt ↔
      (∃ e, answers x = .error e ∧ halt = .failed (.source e)) ∨
      ∃ before e after, answers x = .ok (before ++ e :: after) ∧ ∃ q,
        (applyAll .standard (below .standard limits (ask answers) (x :: chain)) before
          (.start x)).result = .ok q ∧
        (applyAll .standard (below .standard limits (ask answers) (x :: chain)) [e] q).result
          = .error halt := by
  rw [below_of_permits hpermits, result_bind_eq_error_iff, result_ask_eq_error_iff]
  refine or_congr_right ?_
  constructor
  · rintro ⟨h, hanswer, hfail⟩
    rw [result_bind_eq_error_iff] at hfail
    rcases hfail with hfail | ⟨p, -, hfail⟩
    · obtain ⟨before, e, after, q, rfl, hq, hfail⟩ := applyAll_eq_error_iff.1 hfail
      exact ⟨before, e, after, result_ask_eq_ok_iff.1 hanswer, q, hq, hfail⟩
    · cases hfail
  · rintro ⟨before, e, after, hanswer, q, hq, hfail⟩
    refine ⟨before ++ e :: after, result_ask_eq_ok_iff.2 hanswer, ?_⟩
    exact result_bind_of_error (applyAll_eq_error_iff.2 ⟨before, e, after, q, rfl, hq, hfail⟩)

/-- An execution that fails has a fault itself, or a child that it starts properly fails. -/
theorem fault_or_child_of_below
    (hfail : (below .standard limits (ask answers) chain x).result = .error halt) :
    (∃ cause, halt = .failed cause ∧ Fault limits answers chain x cause) ∨
      ∃ before e after c, limits.Permits chain x ∧ answers x = .ok (before ++ e :: after) ∧
        Applies limits answers chain x before ∧ before.Admits e ∧ e.kind.child? = some c ∧
        (below .standard limits (ask answers) (x :: chain) c).result = .error halt := by
  rcases permits_or limits chain x with hpermits | hdeep | ⟨hdepth, hdetect, hcycle⟩
  · rcases (below_eq_error_iff_of_permits hpermits).1 hfail with
      ⟨e, hanswer, rfl⟩ | ⟨before, e, after, hanswer, q, hq, hstep⟩
    · exact .inl ⟨_, rfl, .source hpermits hanswer⟩
    · have happlies := exists_applyAll_iff_applies.1 ⟨q, hq⟩
      obtain ⟨hc, -, hdepicts⟩ := depicts_of_applyAll hq
      rcases History.admits_or_breaks before e with ha | ⟨cause, hb⟩
      · cases hchild : e.kind.child? with
        | none =>
          obtain ⟨q', hdispatch, -⟩ := hdepicts.dispatch_of_admits hc ha hchild
          rw [step_of_applied hdispatch] at hstep
          cases hstep
        | some c =>
          obtain ⟨task, hm⟩ := HistoryEvent.exists_starts_of_child? hchild
          rw [step_of_starts hdepicts ha hm, result_bind_eq_error_iff] at hstep
          rcases hstep with hstep | ⟨g, -, hstep⟩
          · exact .inr ⟨before, e, after, c, hpermits, hanswer, happlies, ha, hchild, hstep⟩
          · cases hstep
      · rw [step_of_breaks hdepicts hc hb] at hstep
        cases hstep
        exact .inl ⟨cause, rfl, .event hpermits hanswer happlies hb⟩
  · rw [below_of_tooDeep hdeep] at hfail
    cases hfail
    exact .inl ⟨_, rfl, .tooDeep hdeep⟩
  · rw [below_of_cycle hdepth hdetect hcycle] at hfail
    cases hfail
    exact .inl ⟨_, rfl, .cycle hdepth hdetect hcycle⟩

/-- An execution with a fault fails for it. -/
theorem below_of_fault (hfault : Fault limits answers chain x cause) :
    (below .standard limits (ask answers) chain x).result = .error (.failed cause) := by
  cases hfault with
  | tooDeep hdeep => rw [below_of_tooDeep hdeep, result_throw]
  | cycle hdepth hdetect hcycle => rw [below_of_cycle hdepth hdetect hcycle, result_throw]
  | source hpermits hanswer =>
    exact (below_eq_error_iff_of_permits hpermits).2 (.inl ⟨_, hanswer, rfl⟩)
  | @event before after e _ hpermits hanswer happlies hb =>
    obtain ⟨q, hq⟩ := exists_applyAll_iff_applies.2 happlies
    obtain ⟨hc, -, hdepicts⟩ := depicts_of_applyAll hq
    refine (below_eq_error_iff_of_permits hpermits).2 (.inr ⟨before, e, after, hanswer, q, hq, ?_⟩)
    rw [step_of_breaks hdepicts hc hb, result_throw]

/-- An execution fails as a child does that it starts properly. -/
theorem below_of_child (hpermits : limits.Permits chain x)
    (hanswer : answers x = .ok (before ++ e :: after))
    (happlies : Applies limits answers chain x before) (ha : before.Admits e)
    (hchild : e.kind.child? = some c)
    (hfail : (below .standard limits (ask answers) (x :: chain) c).result = .error halt) :
    (below .standard limits (ask answers) chain x).result = .error halt := by
  obtain ⟨q, hq⟩ := exists_applyAll_iff_applies.2 happlies
  obtain ⟨-, -, hdepicts⟩ := depicts_of_applyAll hq
  obtain ⟨task, hm⟩ := HistoryEvent.exists_starts_of_child? hchild
  refine (below_eq_error_iff_of_permits hpermits).2 (.inr ⟨before, e, after, hanswer, q, hq, ?_⟩)
  rw [step_of_starts hdepicts ha hm, result_bind_of_error hfail]

/-! ## Executions below each other -/

/-- Behind every failure stands a fault of an execution that is reached. -/
theorem exists_fault_of_below (hdescends : Descends limits answers root chain x)
    (hfail : (below .standard limits (ask answers) chain x).result = .error halt) :
    ∃ chain y cause, halt = .failed cause ∧ Descends limits answers root chain y ∧
      Fault limits answers chain y cause := by
  -- each child has one level less
  induction hlevels : limits.maxDepth + 1 - chain.length generalizing chain x with
  | zero =>
    rcases fault_or_child_of_below hfail with ⟨cause, rfl, hfault⟩ | ⟨_, _, _, _, hpermits, -⟩
    · exact ⟨chain, x, cause, rfl, hdescends, hfault⟩
    · have := hpermits.1
      omega
  | succ levels ih =>
    rcases fault_or_child_of_below hfail with
      ⟨cause, rfl, hfault⟩ | ⟨before, e, after, c, hpermits, hanswer, happlies, ha, hchild, hfail⟩
    · exact ⟨chain, x, cause, rfl, hdescends, hfault⟩
    · refine ih (hdescends.child hpermits hanswer happlies ha hchild) hfail ?_
      rw [List.length_cons]
      omega

/-- A root fails as any execution does that is entered below it. -/
theorem below_of_descends (hdescends : Descends limits answers root chain x)
    (hfail : (below .standard limits (ask answers) chain x).result = .error halt) :
    (below .standard limits (ask answers) [] root).result = .error halt := by
  induction hdescends with
  | root => exact hfail
  | child _ hpermits hanswer happlies ha hchild ih =>
    exact ih (below_of_child hpermits hanswer happlies ha hchild hfail)

end Trace

namespace Session

variable {σ : Type} {source : Source σ} {answers : Execution → Except SourceError History}
  {s : Session σ}

/-- With the standard handlers and a source of fixed answers, a projection fails exactly for a
fault of an execution that is entered in the course of it. -/
theorem fails_iff (hs : source.Serves s.source answers) (limits : Limits) (x : Execution)
    (halt : Halt) :
    (∃ s', project source .standard limits x s = .error halt s') ↔
      ∃ chain y cause, halt = .failed cause ∧ Expansion.Descends limits answers x chain y ∧
        Expansion.Fault limits answers chain y cause := by
  rw [project, Expansion.project_eq_below, exists_below_eq_error_iff hs]
  constructor
  · exact Trace.exists_fault_of_below .root
  · rintro ⟨chain, y, cause, rfl, hdescends, hfault⟩
    exact Trace.below_of_descends hdescends (Trace.below_of_fault hfault)

end Session

namespace Memory

/-- The history of an order, without that of its payment. -/
def unpaid : Memory :=
  empty.insert ⟨"order", "1"⟩
    [.of ⟨1⟩ (.childInitiated "acme.Pay"), .of ⟨2⟩ (.childStarted ⟨1⟩ ⟨"payment", "1"⟩)]

/-- The order without its payment fails for a missing history, which is a fault of an execution
below the order. -/
theorem unpaid_fails : ∃ chain y cause,
    Halt.failed (.source (.notFound ⟨"payment", "1"⟩)) = .failed cause ∧
      Expansion.Descends {} unpaid.answers ⟨"order", "1"⟩ chain y ∧
      Expansion.Fault {} unpaid.answers chain y cause :=
  (Session.fails_iff (s := .start unpaid) unpaid.serves {} ⟨"order", "1"⟩ _).1 ⟨_, rfl⟩

end Memory

end HistoryTree
