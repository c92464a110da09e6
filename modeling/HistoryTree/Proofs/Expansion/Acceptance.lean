import HistoryTree.Proofs.Expansion.Steps
import HistoryTree.Proofs.History.Depiction

/-!
# Which executions are projected

With the standard handlers, applying a history leads to a result exactly when the history
is coherent and each of its children is projected; the result depicts the history
(`Trace.exists_applyAll_eq_ok_iff`, `Trace.depicts_of_applyAll`).  `Expansion.Accepted` says the
same of an execution with everything below it, without mentioning events or their order of
processing, and is met exactly where a projection succeeds
(`Trace.exists_below_eq_ok_iff_accepted`).
-/

namespace HistoryTree

/-- The child executions that the events of a history start, in order. -/
def History.children (h : History) : List Execution := h.filterMap (·.kind.child?)

/-- The children of a history are those of its parts, in order. -/
theorem History.children_append (h₁ h₂ : History) :
    children (h₁ ++ h₂) = children h₁ ++ children h₂ :=
  List.filterMap_append

theorem History.children_singleton_of_starts {e : HistoryEvent} {task : EventId}
    {child : Execution} (hm : e.meaning = .starts task child) : children [e] = [child] := by
  have hchild : e.kind.child? = some child := by
    rw [e.child?_eq, hm]
    rfl
  simp [children, hchild]

/-- An execution is accepted below a chain of ancestors when it may be entered there, its
history is delivered and coherent, and each child is accepted below it. -/
inductive Expansion.Accepted (limits : Limits) (answers : Execution → Except SourceError History) :
    List Execution → Execution → Prop
  | intro {chain : List Execution} {x : Execution} {h : History} : limits.Permits chain x →
      answers x = .ok h → h.Coherent → (∀ c ∈ h.children, Accepted limits answers (x :: chain) c) →
      Accepted limits answers chain x

namespace Trace

open Expansion (applyAll below Accepted)

/-- The tasks that the projection of an execution leads to; none where it fails. -/
def tasksOf (project : Execution → Trace TaskGroup) (x : Execution) : List Task :=
  match (project x).result with
  | .ok g => g.tasks
  | .error _ => []

variable {project : Execution → Trace TaskGroup} {p q : Projection} {x child : Execution}
  {h : History} {e : HistoryEvent} {task : EventId} {cause : ProjectionError} {g : TaskGroup}

theorem tasksOf_of_ok (hg : (project x).result = .ok g) : tasksOf project x = g.tasks := by
  rw [tasksOf, hg]

/-! ## One more event -/

/-- An event that breaks what stands behind a coherent history fails, for its cause. -/
theorem step_of_breaks {subTasks : Execution → List Task} (hp : p.Depicts x h subTasks)
    (hc : h.Coherent) (hb : h.Breaks e cause) :
    applyAll .standard project [e] p = throw (.failed cause) :=
  step_of_error (hp.dispatch_of_breaks hc hb)

/-- An event that starts a child execution leads to what the child leads to. -/
theorem step_of_starts {subTasks : Execution → List Task} (hp : p.Depicts x h subTasks)
    (ha : h.Admits e) (hm : e.meaning = .starts task child) :
    applyAll .standard project [e] p = do
      let g ← project child
      return p.modify task (.expanded g.tasks) := by
  rw [step_of_expandChild (hp.dispatch_of_starts ha hm)]
  congr 1
  funext g
  rw [hp.attachChild ha hm g]

/-- An event that is applied finds room, and the result depicts one more event. -/
theorem depicts_of_step (hp : p.Depicts x h (tasksOf project)) (hc : h.Coherent)
    (hq : (applyAll .standard project [e] p).result = .ok q) :
    h.Admits e ∧ (∀ c ∈ History.children [e], ∃ g, (project c).result = .ok g) ∧
      q.Depicts x (h ++ [e]) (tasksOf project) := by
  rcases History.admits_or_breaks h e with ha | ⟨cause, hb⟩
  · refine ⟨ha, ?_⟩
    cases hchild : e.kind.child? with
    | none =>
      obtain ⟨q', hdispatch, hq'⟩ := hp.dispatch_of_admits hc ha hchild
      rw [step_of_applied hdispatch] at hq
      cases hq
      exact ⟨by simp [History.children, hchild], hq'⟩
    | some child =>
      obtain ⟨task, hm⟩ := HistoryEvent.exists_starts_of_child? hchild
      rw [step_of_starts hp ha hm, result_bind_eq_ok_iff] at hq
      obtain ⟨g, hg, hq⟩ := hq
      cases hq
      have hafter := hp.after_starts ha hm
      rw [tasksOf_of_ok hg] at hafter
      refine ⟨?_, hafter⟩
      intro c hc
      rw [History.children_singleton_of_starts hm, List.mem_singleton] at hc
      exact ⟨g, hc ▸ hg⟩
  · rw [step_of_breaks hp hc hb] at hq
    cases hq

/-- An event that finds room is applied once its child is projected. -/
theorem exists_step_of_admits (hp : p.Depicts x h (tasksOf project)) (hc : h.Coherent)
    (ha : h.Admits e) (hchildren : ∀ c ∈ History.children [e], ∃ g, (project c).result = .ok g) :
    ∃ q, (applyAll .standard project [e] p).result = .ok q := by
  cases hchild : e.kind.child? with
  | none =>
    obtain ⟨q, hdispatch, -⟩ := hp.dispatch_of_admits hc ha hchild
    exact ⟨q, by rw [step_of_applied hdispatch, result_pure]⟩
  | some child =>
    obtain ⟨task, hm⟩ := HistoryEvent.exists_starts_of_child? hchild
    obtain ⟨g, hg⟩ := hchildren child (by simp [History.children_singleton_of_starts hm])
    rw [step_of_starts hp ha hm, result_bind_of_ok hg]
    exact ⟨_, rfl⟩

/-! ## Whole histories -/

/-- A history that is applied is coherent, its children are projected, and the result depicts it. -/
theorem depicts_of_applyAll (hq : (applyAll .standard project h (.start x)).result = .ok q) :
    h.Coherent ∧ (∀ c ∈ h.children, ∃ g, (project c).result = .ok g) ∧
      q.Depicts x h (tasksOf project) := by
  induction h using List.reverseRecOn generalizing q with
  | nil =>
    rw [applyAll_nil, result_pure] at hq
    cases hq
    exact ⟨History.coherent_nil, by simp [History.children], Projection.depicts_start x _⟩
  | append_singleton h e ih =>
    rw [applyAll_append, result_bind_eq_ok_iff] at hq
    obtain ⟨p, hp, hstep⟩ := hq
    obtain ⟨hc, hchildren, hdepicts⟩ := ih hp
    obtain ⟨ha, hlast, hafter⟩ := depicts_of_step hdepicts hc hstep
    refine ⟨History.coherent_append_singleton.2 ⟨hc, ha⟩, ?_, hafter⟩
    intro c hmem
    rw [History.children_append, List.mem_append] at hmem
    rcases hmem with hmem | hmem
    · exact hchildren c hmem
    · exact hlast c hmem

/-- A coherent history is applied once its children are projected. -/
theorem exists_applyAll_of_coherent (hc : h.Coherent)
    (hchildren : ∀ c ∈ h.children, ∃ g, (project c).result = .ok g) :
    ∃ q, (applyAll .standard project h (.start x)).result = .ok q := by
  induction h using List.reverseRecOn with
  | nil => exact ⟨_, rfl⟩
  | append_singleton h e ih =>
    obtain ⟨hc, ha⟩ := History.coherent_append_singleton.1 hc
    simp only [History.children_append, List.mem_append] at hchildren
    obtain ⟨p, hp⟩ := ih hc fun c hmem => hchildren c (.inl hmem)
    obtain ⟨-, -, hdepicts⟩ := depicts_of_applyAll hp
    obtain ⟨q, hq⟩ := exists_step_of_admits hdepicts hc ha fun c hmem => hchildren c (.inr hmem)
    exact ⟨q, by rw [applyAll_append, result_bind_of_ok hp, hq]⟩

/-- A history is applied exactly if it is coherent and all its children are projected. -/
theorem exists_applyAll_eq_ok_iff :
    (∃ q, (applyAll .standard project h (.start x)).result = .ok q) ↔
      h.Coherent ∧ ∀ c ∈ h.children, ∃ g, (project c).result = .ok g := by
  constructor
  · rintro ⟨q, hq⟩
    obtain ⟨hc, hchildren, -⟩ := depicts_of_applyAll hq
    exact ⟨hc, hchildren⟩
  · rintro ⟨hc, hchildren⟩
    exact exists_applyAll_of_coherent hc hchildren

/-! ## Whole executions -/

variable {limits : Limits} {answers : Execution → Except SourceError History}
  {chain : List Execution}

/-- An execution is projected to the group that its history depicts. -/
theorem eq_portrait_of_below
    (hg : (below .standard limits (ask answers) chain x).result = .ok g) :
    ∃ h, limits.Permits chain x ∧ answers x = .ok h ∧ h.Coherent ∧
      (∀ c ∈ h.children, ∃ g', (below .standard limits (ask answers) (x :: chain) c).result
        = .ok g') ∧
      g = h.portrait x (tasksOf (below .standard limits (ask answers) (x :: chain))) := by
  rcases permits_or limits chain x with hpermits | hdeep | ⟨hdepth, hdetect, hcycle⟩
  · rw [below_of_permits hpermits, result_bind_eq_ok_iff] at hg
    obtain ⟨h, hanswer, hg⟩ := hg
    rw [result_bind_eq_ok_iff] at hg
    obtain ⟨q, hq, hg⟩ := hg
    cases hg
    obtain ⟨hc, hchildren, hdepicts⟩ := depicts_of_applyAll hq
    exact ⟨h, hpermits, result_ask_eq_ok_iff.1 hanswer, hc, hchildren, hdepicts.group_eq⟩
  · rw [below_of_tooDeep hdeep] at hg
    cases hg
  · rw [below_of_cycle hdepth hdetect hcycle] at hg
    cases hg

/-- An execution with a coherent history is projected if its children are. -/
theorem exists_below_of_coherent (hpermits : limits.Permits chain x) (hanswer : answers x = .ok h)
    (hc : h.Coherent) (hchildren : ∀ c ∈ h.children,
      ∃ g, (below .standard limits (ask answers) (x :: chain) c).result = .ok g) :
    ∃ g, (below .standard limits (ask answers) chain x).result = .ok g := by
  obtain ⟨q, hq⟩ := exists_applyAll_of_coherent (x := x) hc hchildren
  refine ⟨q.group, ?_⟩
  rw [below_of_permits hpermits, result_bind_of_ok (result_ask_eq_ok_iff.2 hanswer),
    result_bind_of_ok hq, result_pure]

/-- With its history at hand, an execution is projected exactly if it may be entered, the history is
coherent and each child is projected, and then to the group that the history depicts. -/
theorem below_eq_ok_iff (hanswer : answers x = .ok h) :
    (below .standard limits (ask answers) chain x).result = .ok g ↔
      limits.Permits chain x ∧ h.Coherent ∧
        (∀ c ∈ h.children, ∃ g',
          (below .standard limits (ask answers) (x :: chain) c).result = .ok g') ∧
        g = h.portrait x (tasksOf (below .standard limits (ask answers) (x :: chain))) := by
  constructor
  · intro hg
    obtain ⟨h', hpermits, hanswer', hc, hchildren, heq⟩ := eq_portrait_of_below hg
    obtain rfl : h = h' := Except.ok.inj (hanswer.symm.trans hanswer')
    exact ⟨hpermits, hc, hchildren, heq⟩
  · rintro ⟨hpermits, hc, hchildren, rfl⟩
    obtain ⟨g', hg'⟩ := exists_below_of_coherent hpermits hanswer hc hchildren
    obtain ⟨h', -, hanswer', -, -, heq⟩ := eq_portrait_of_below hg'
    obtain rfl : h = h' := Except.ok.inj (hanswer.symm.trans hanswer')
    rw [hg', heq]

/-- What is projected is accepted, and so is everything below it. -/
theorem accepted_of_below (hg : (below .standard limits (ask answers) chain x).result = .ok g) :
    Accepted limits answers chain x := by
  -- on the levels that are left, of which each child has one less
  induction hlevels : limits.maxDepth + 1 - chain.length generalizing chain x g with
  | zero =>
    obtain ⟨h, hpermits, -⟩ := eq_portrait_of_below hg
    have := hpermits.1
    omega
  | succ levels ih =>
    obtain ⟨h, hpermits, hanswer, hc, hchildren, -⟩ := eq_portrait_of_below hg
    refine .intro hpermits hanswer hc ?_
    intro c hmem
    obtain ⟨g', hg'⟩ := hchildren c hmem
    exact ih hg' (by rw [List.length_cons]; omega)

/-- With fixed answers, exactly the accepted executions are projected. -/
theorem exists_below_eq_ok_iff_accepted :
    (∃ g, (below .standard limits (ask answers) chain x).result = .ok g) ↔
      Accepted limits answers chain x := by
  constructor
  · rintro ⟨g, hg⟩
    exact accepted_of_below hg
  · intro h
    induction h with
    | intro hpermits hanswer hc _ ih => exact exists_below_of_coherent hpermits hanswer hc ih

end Trace

namespace Session

variable {σ : Type} {source : Source σ} {answers : Execution → Except SourceError History}
  {s : Session σ}

/-- With the standard handlers and a source of fixed answers, an execution below any chain of
ancestors is projected exactly when it is accepted there. -/
theorem below_succeeds_iff_accepted (hs : source.Serves s.source answers) (limits : Limits)
    (watching : Bool) (chain : List Execution) (x : Execution) :
    (∃ g s', Expansion.below .standard limits (fetch source limits watching) chain x s
        = .ok g s') ↔
      Expansion.Accepted limits answers chain x := by
  rw [exists_below_eq_ok_iff hs, Trace.exists_below_eq_ok_iff_accepted]

end Session

namespace Memory

/-- The histories of an order and of its payment, a child execution. -/
def order : Memory :=
  (empty.insert ⟨"payment", "1"⟩
    [.of ⟨1⟩ .workflowStarted, .of ⟨2⟩ (.timerStarted none), .of ⟨3⟩ (.timerFired ⟨2⟩)]).insert
    ⟨"order", "1"⟩
    [.of ⟨1⟩ .workflowStarted, .of ⟨2⟩ (.activityScheduled "acme.Pack"),
      .of ⟨3⟩ (.childInitiated "acme.Pay"), .of ⟨4⟩ (.childStarted ⟨3⟩ ⟨"payment", "1"⟩),
      .of ⟨5⟩ (.activityCompleted ⟨2⟩), .of ⟨6⟩ .workflowCompleted]

/-- The order is accepted, since it is projected. -/
theorem order_accepted : Source.Serves fetch order order.answers ∧
    Expansion.Accepted {} order.answers [] ⟨"order", "1"⟩ := by
  refine ⟨order.serves, ?_⟩
  exact (Session.below_succeeds_iff_accepted (s := .start order) order.serves {} false [] _).1
    ⟨_, _, rfl⟩

end Memory

end HistoryTree
