import HistoryTree.Proofs.Expansion.Steps
import HistoryTree.Proofs.Projection.Reduced
import HistoryTree.Event.Codec

/-!
# What an expansion depends on

An expansion asks only for the executions that the histories name (`Trace.expand_of_named`), and
does not look at the times of events (`Trace.expand_untimed`).  So sources that answer alike for
these executions, up to times, lead to the same result (`Session.resultOf_project_of_named`).
-/

namespace HistoryTree

/-! ## Children -/

/-- The handlers of a registry ask for no child but the one that the event names. -/
def Registry.AsksForNamed (r : Registry) : Prop :=
  ∀ e p task child q, r.dispatch e p = .ok (.expandChild task child) q →
    e.kind.child? = some child

/-- The standard handlers ask for no child but the one that the event names. -/
theorem Registry.standard_asksForNamed (types : List EventType) :
    (standard.unregisterAll types).AsksForNamed := by
  intro e p task child q h
  obtain ⟨hstarts, -⟩ := of_standard_expandChild (dispatch_of_unregisterAll_expandChild h)
  rw [HistoryEvent.child?_eq, hstarts]
  rfl

/-! ## Times -/

/-- The event without its time. -/
def HistoryEvent.untimed (e : HistoryEvent) : HistoryEvent := .of e.id e.kind

/-- The history without the times of its events. -/
def History.untimed (h : History) : History := h.map HistoryEvent.untimed

/-- The handlers of a registry do not look at the times of events. -/
def Registry.ReadsNoTime (r : Registry) : Prop := ∀ e, r.dispatch e = r.dispatch e.untimed

/-- No rule looks at the time of an event. -/
theorem Rule.handler_untimed (expected : EventType) (rule : Rule) (e : HistoryEvent) :
    rule.handler expected e = rule.handler expected e.untimed := by
  cases rule <;> rfl

theorem Registry.standard_readsNoTime (types : List EventType) :
    (standard.unregisterAll types).ReadsNoTime := by
  intro e
  have htype : e.untimed.type = e.type := rfl
  have hstandard : standard.dispatch e = standard.dispatch e.untimed := by
    rw [dispatch, dispatch, htype]
    cases hhandler : standard.handler? e.type with
    | none => rfl
    | some handler =>
      obtain ⟨rule, -, rfl⟩ := Option.map_eq_some_iff.1 hhandler
      exact Rule.handler_untimed e.type rule e
  rw [dispatch_unregisterAll, dispatch_unregisterAll, htype, hstandard]

/-- A history is applied as it is without times. -/
theorem Expansion.applyAll_untimed {m : Type → Type} [Monad m] [MonadExceptOf Halt m]
    {registry : Registry} (hr : registry.ReadsNoTime) (project : Execution → m TaskGroup)
    (h : History) (p : Projection) :
    applyAll registry project h p = applyAll registry project h.untimed p := by
  induction h generalizing p with
  | nil => rfl
  | cons e rest ih =>
    have hcons : History.untimed (e :: rest) = e.untimed :: History.untimed rest := rfl
    rw [hcons, applyAll, applyAll, hr e]
    simp only [ih]
    rfl

namespace Trace

open Expansion (applyAll expand below)

variable {registry : Registry} {limits : Limits} {levels : Nat} {chain : List Execution}
  {x : Execution} {answers answers' : Execution → Except SourceError History}

/-! ## What an expansion asks for -/

/-- A history is applied alike if the children that it names are projected alike. -/
theorem applyAll_of_named (hr : registry.AsksForNamed)
    {project project' : Execution → Trace TaskGroup} {h : History}
    (hproject : ∀ e ∈ h, ∀ c, e.kind.child? = some c → project c = project' c) (p : Projection) :
    applyAll registry project h p = applyAll registry project' h p := by
  induction h generalizing p with
  | nil => rfl
  | cons e rest ih =>
    have hrest := ih fun e' he' => hproject e' (List.mem_cons_of_mem _ he')
    rw [applyAll, applyAll]
    cases hdispatch : registry.dispatch e p with
    | error cause q => rfl
    | ok outcome q =>
      cases outcome with
      | applied => exact hrest q
      | expandChild task child =>
        have hchild := hproject e (by simp) child (hr e p task child q hdispatch)
        simp only [hchild, hrest]

/-- Answers that are the same for an execution, and for all executions that histories name, lead to
the same expansion. -/
theorem expand_of_named (hr : registry.AsksForNamed) (named : Execution → Prop)
    (hsame : ∀ y, named y → answers y = answers' y)
    (hnamed : ∀ y h, answers y = .ok h → ∀ e ∈ h, ∀ c, e.kind.child? = some c → named c)
    (levels : Nat) (chain : List Execution) (hx : named x) :
    expand registry limits (ask answers) levels chain x
      = expand registry limits (ask answers') levels chain x := by
  induction levels generalizing chain x with
  | zero => rfl
  | succ levels ih =>
    by_cases hcycle : limits.detectCycles = true → x ∉ chain
    · have hask : ask answers x = ask answers' x := by rw [ask, ask, hsame x hx]
      rw [expand_succ hcycle, expand_succ hcycle, ← hask]
      cases hanswer : answers x with
      | error e =>
        have hfail := result_ask_eq_error_iff.2 ⟨e, hanswer, rfl⟩
        rw [bind_of_error hfail, bind_of_error hfail]
      | ok h =>
        have happly := applyAll_of_named hr (h := h)
          fun e he c hc => ih (x :: chain) (hnamed x h hanswer e he c hc)
        have hask' := result_ask_eq_ok_iff.2 hanswer
        rw [bind_of_ok hask', bind_of_ok hask', happly]
    · obtain ⟨hd, hmem⟩ := Classical.not_imp.1 hcycle
      rw [expand_succ_of_cycle hd (Decidable.not_not.1 hmem),
        expand_succ_of_cycle hd (Decidable.not_not.1 hmem)]

/-- An expansion is the one from answers without times. -/
theorem expand_untimed (hr : registry.ReadsNoTime)
    (answers : Execution → Except SourceError History) (levels : Nat) (chain : List Execution)
    (x : Execution) :
    expand registry limits (ask answers) levels chain x
      = expand registry limits (ask fun y => (answers y).map History.untimed) levels chain x := by
  have hask : ∀ y, History.untimed <$> ask answers y
      = ask (fun y => (answers y).map History.untimed) y := by
    intro y
    rw [ask, ask]
    cases answers y <;> rfl
  rw [Expansion.expand_map (Expansion.applyAll_untimed hr)]
  simp only [hask]

/-- Answers that differ in times only, for an execution and for all executions that histories name,
lead to the same expansion. -/
theorem expand_of_named_untimed (hr : registry.AsksForNamed) (htime : registry.ReadsNoTime)
    (named : Execution → Prop)
    (hsame : ∀ y, named y →
      (answers y).map History.untimed = (answers' y).map History.untimed)
    (hnamed : ∀ y h, answers y = .ok h → ∀ e ∈ h, ∀ c, e.kind.child? = some c → named c)
    (levels : Nat) (chain : List Execution) (hx : named x) :
    expand registry limits (ask answers) levels chain x
      = expand registry limits (ask answers') levels chain x := by
  rw [expand_untimed htime answers, expand_untimed htime answers']
  refine expand_of_named hr named hsame ?_ levels chain hx
  intro y h hy e he c hc
  cases hanswer : answers y with
  | error f =>
    rw [hanswer] at hy
    cases hy
  | ok h' =>
    rw [hanswer] at hy
    cases hy
    obtain ⟨e', he', rfl⟩ := List.mem_map.1 he
    exact hnamed y h' hanswer e' he' c hc

end Trace

/-! ## Sources that answer alike -/

namespace Session

variable {σ τ : Type} {source : Source σ} {source' : Source τ} {s : Session σ} {s' : Session τ}
  {registry : Registry} {answers answers' : Execution → Except SourceError History} {x : Execution}

/-- A session leads to what the trace of the expansion leads to. -/
theorem resultOf_below (hs : source.Serves s.source answers) (limits : Limits) (watching : Bool)
    (chain : List Execution) (x : Execution) :
    resultOf (Expansion.below registry limits (fetch source limits watching) chain x s)
      = (Expansion.below registry limits (Trace.ask answers) chain x).result := by
  rw [below_eq_replay hs, replay]
  split
  · rename_i h
    exact h.symm
  · rename_i h
    exact h.symm

/-- Sources that answer alike up to times, for all executions that are named, lead to the same
results. -/
theorem resultOf_project_of_named (hr : registry.AsksForNamed) (htime : registry.ReadsNoTime)
    (hs : source.Serves s.source answers) (hs' : source'.Serves s'.source answers')
    (named : Execution → Prop)
    (hsame : ∀ y, named y →
      (answers y).map History.untimed = (answers' y).map History.untimed)
    (hnamed : ∀ y h, answers y = .ok h → ∀ e ∈ h, ∀ c, e.kind.child? = some c → named c)
    (limits : Limits) (hx : named x) :
    resultOf (project source registry limits x s)
        = resultOf (project source' registry limits x s') ∧
      (s.cancelled = s'.cancelled →
        resultOf (projectUnlessCancelled source registry limits x s)
          = resultOf (projectUnlessCancelled source' registry limits x s')) := by
  have hbelow : ∀ watching,
      resultOf (Expansion.below registry limits (fetch source limits watching) [] x s)
        = resultOf (Expansion.below registry limits (fetch source' limits watching) [] x s') := by
    intro watching
    rw [resultOf_below hs, resultOf_below hs', Expansion.below, Expansion.below,
      Trace.expand_of_named_untimed hr htime named hsame hnamed _ [] hx]
  refine ⟨hbelow false, fun hcancelled => ?_⟩
  cases hs : s.cancelled with
  | true =>
    rw [projectUnlessCancelled_of_cancelled source hs,
      projectUnlessCancelled_of_cancelled source' (hcancelled.symm.trans hs)]
    rfl
  | false =>
    rw [projectUnlessCancelled_of_not_cancelled source hs,
      projectUnlessCancelled_of_not_cancelled source' (hcancelled.symm.trans hs)]
    exact hbelow true

end Session

end HistoryTree
