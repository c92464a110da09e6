import HistoryTree.Proofs.Expansion.Steps
import HistoryTree.Proofs.Projection.Causes

/-!
# Cycles and the limit of nesting

Refusing an execution below itself only reports earlier what the limit of nesting would
report: without it, a projection that does not meet a cycle leads to the same
(`Session.same_of_no_cycle`), and one that does nests too deep (`Session.tooDeep_of_cycle`).

An execution `y` that is met below itself is projected again and again at greater depth.
On the way down, an earlier child may nest too deep first, but nothing else can happen: by
induction on the levels that are left, `y` nests too deep with any number of them
(`Trace.runsOut_of_cycle`), and so does everything that leads to it.
-/

namespace HistoryTree

/-- The limits with executions below themselves refused, or not. -/
def Limits.detecting (limits : Limits) (detect : Bool) : Limits :=
  { limits with detectCycles := detect }

namespace Trace

open Expansion (applyAll expand below)

/-- Whether a projection halts for a cycle. -/
def IsCycle (halt : Halt) : Prop := ∃ y, halt = .failed (.cycle y)

/-- Whether a projection halts at the limit of nesting. -/
def IsTooDeep (limits : Limits) (halt : Halt) : Prop :=
  ∃ y, halt = .failed (.tooDeep y limits.maxDepth)

variable {registry : Registry} {limits : Limits} {fetch : Execution → Trace History}
  {project : Execution → Trace TaskGroup} {chain chain' : List Execution} {x y : Execution}
  {levels levels' : Nat} {p : Projection} {h : History}

/-! ## Runs with and without detection -/

/-- Without detection a projection leads to the same, unless it meets a cycle. -/
theorem expand_without_detection (levels : Nat) (chain chain' : List Execution) (x : Execution) :
    AgreesUnless IsCycle _ (expand registry (limits.detecting true) fetch levels chain x)
      (expand registry (limits.detecting false) fetch levels chain' x) := by
  have hlooser : Looser IsCycle (limits.detecting true) (limits.detecting false) levels levels
      chain chain' := by
    refine ⟨Nat.le_refl levels, .inl ⟨rfl, rfl⟩, ?_, fun _ => .inr fun y => ⟨y, rfl⟩⟩
    intro hd
    cases hd
  exact expand_agreesUnless hlooser x

/-- With more levels a projection leads to the same, unless it nests too deep. -/
theorem expand_with_more_levels (detect : Bool) (hle : levels ≤ levels') (chain : List Execution)
    (x : Execution) :
    AgreesUnless (IsTooDeep limits)
      _ (expand registry (limits.detecting detect) fetch levels chain x)
      (expand registry (limits.detecting detect) fetch levels' chain x) := by
  have hlooser : Looser (IsTooDeep limits) (limits.detecting detect) (limits.detecting detect)
      levels levels' chain chain := by
    refine ⟨hle, .inr fun y => ⟨y, rfl⟩, ?_, fun hd => .inl ⟨hd, rfl⟩⟩
    exact fun hd => ⟨hd, List.Subset.refl chain⟩
  exact expand_agreesUnless hlooser x

/-! ## Where a cycle is met -/

/-- An execution that stands in the chain is refused for itself. -/
theorem eq_of_cycle (hx : x ∈ chain)
    (hfail : (expand registry (limits.detecting true) fetch levels chain x).result
      = .error (.failed (.cycle y))) : y = x := by
  cases levels with
  | zero => cases hfail
  | succ levels =>
    rw [expand_succ_of_cycle rfl hx] at hfail
    cases hfail
    rfl

/-- An event is reached that asks for a child execution. -/
def AsksFor (registry : Registry) (project : Execution → Trace TaskGroup) (h : History)
    (p : Projection) (before : History) (c : Execution) : Prop :=
  ∃ e after task q q', h = before ++ e :: after ∧
    (applyAll registry project before p).result = .ok q ∧
    registry.dispatch e q = .ok (.expandChild task c) q'

/-- No source fails for what the guards look for. -/
theorem result_ask_ne_guard {answers : Execution → Except SourceError History}
    {cause : ProjectionError} (hguard : cause.isGuard = true) (x : Execution) :
    (ask answers x).result ≠ .error (.failed cause) := by
  intro hfail
  obtain ⟨e, -, hcause⟩ := result_ask_eq_error_iff.1 hfail
  cases hcause
  cases hguard

/-- What only the guards report is met in a child execution. -/
theorem asksFor_of_guard {cause : ProjectionError} (hr : registry.Spares cause)
    (hguard : cause.isGuard = true)
    (hfail : (applyAll registry project h p).result = .error (.failed cause)) :
    ∃ before c, AsksFor registry project h p before c ∧
      (project c).result = .error (.failed cause) := by
  obtain ⟨before, e, after, q, rfl, hq, hstep⟩ := applyAll_eq_error_iff.1 hfail
  cases hdispatch : registry.dispatch e q with
  | error other q' =>
    rw [step_of_error hdispatch] at hstep
    cases hstep
    exact absurd hdispatch (hr.dispatch e q q')
  | ok outcome q' =>
    cases outcome with
    | applied =>
      rw [step_of_applied hdispatch] at hstep
      cases hstep
    | expandChild task c =>
      rw [step_of_expandChild hdispatch, result_bind_eq_error_iff] at hstep
      rcases hstep with hchild | ⟨g, -, hattach⟩
      · exact ⟨before, c, ⟨e, after, task, q, q', rfl, hq, hdispatch⟩, hchild⟩
      · cases hresult : Projection.attachChild e.id task g q' with
        | ok u q'' =>
          rw [hresult] at hattach
          cases hattach
        | error other q'' =>
          rw [hresult] at hattach
          cases hattach
          exact absurd hresult (Step.Spares.attachChild hguard e.id task g q' q'')

/-- A history fails as the child does for which one of its events asks. -/
theorem applyAll_of_asksFor {before : History} {c : Execution} {halt : Halt}
    (hasks : AsksFor registry project h p before c) (hfail : (project c).result = .error halt) :
    (applyAll registry project h p).result = .error halt := by
  obtain ⟨e, after, task, q, q', rfl, hq, hdispatch⟩ := hasks
  refine applyAll_eq_error_iff.2 ⟨before, e, after, q, rfl, hq, ?_⟩
  rw [step_of_expandChild hdispatch, result_bind_of_error hfail]

/-- A cycle that is met below an execution is met in a child for which its history asks. -/
theorem child_of_cycle (hr : registry.ReportsNoCycle)
    (hfetch : ∀ x y, (fetch x).result ≠ .error (.failed (.cycle y))) (hx : x ∉ chain)
    (hfail : (expand registry (limits.detecting true) fetch (levels + 1) chain x).result
      = .error (.failed (.cycle y))) :
    ∃ h before c, (fetch x).result = .ok h ∧
      AsksFor registry (expand registry (limits.detecting true) fetch levels (x :: chain)) h
        (.start x) before c ∧
      (expand registry (limits.detecting true) fetch levels (x :: chain) c).result
        = .error (.failed (.cycle y)) := by
  rw [expand_succ fun _ => hx, result_bind_eq_error_iff] at hfail
  rcases hfail with hfail | ⟨h, hh, hfail⟩
  · exact absurd hfail (hfetch x y)
  · rw [result_bind_eq_error_iff] at hfail
    rcases hfail with hfail | ⟨p, -, hfail⟩
    · obtain ⟨before, c, hasks, hchild⟩ := asksFor_of_guard (hr y) rfl hfail
      exact ⟨h, before, c, hh, hasks, hchild⟩
    · cases hfail

/-- An execution that is met below itself was first entered where it is not below itself. -/
theorem entered_of_cycle (hr : registry.ReportsNoCycle)
    (hfetch : ∀ x y, (fetch x).result ≠ .error (.failed (.cycle y)))
    (hfail : (expand registry (limits.detecting true) fetch levels chain x).result
      = .error (.failed (.cycle y))) :
    y ∈ chain ∨ ∃ levels' chain', y ∉ chain' ∧
      (expand registry (limits.detecting true) fetch levels' chain' y).result
        = .error (.failed (.cycle y)) := by
  induction levels generalizing chain x with
  | zero => cases hfail
  | succ levels ih =>
    by_cases hx : x ∈ chain
    · obtain rfl := eq_of_cycle hx hfail
      exact .inl hx
    · obtain ⟨_, _, _, -, -, hchild⟩ := child_of_cycle hr hfetch hx hfail
      rcases ih hchild with hmem | hentered
      · rcases List.mem_cons.1 hmem with rfl | hmem
        · exact .inr ⟨levels + 1, chain, hx, hfail⟩
        · exact .inl hmem
      · exact .inr hentered

/-! ## Running out of levels -/

/-- With so many levels left, an execution nests too deep if cycles are not detected. -/
def RunsOut (registry : Registry) (limits : Limits) (fetch : Execution → Trace History)
    (x : Execution) (levels : Nat) : Prop :=
  ∀ chain, ∃ halt, IsTooDeep limits halt ∧
    (expand registry (limits.detecting false) fetch levels chain x).result = .error halt

/-- Without detection and with fewer levels the same child is asked for, unless an earlier one
nests too deep. -/
theorem asksFor_without_detection {before : History} {c : Execution} (hle : levels' ≤ levels)
    (hasks : AsksFor registry (expand registry (limits.detecting true) fetch levels chain) h p
      before c) :
    (∃ halt, IsTooDeep limits halt ∧
      (applyAll registry (expand registry (limits.detecting false) fetch levels' chain') h p).result
        = .error halt) ∨
    AsksFor registry (expand registry (limits.detecting false) fetch levels' chain') h p
      before c := by
  obtain ⟨e, after, task, q, q', rfl, hq, hdispatch⟩ := hasks
  have hdetect : AgreesUnless IsCycle _
      (applyAll registry (expand registry (limits.detecting true) fetch levels chain) before p)
      (applyAll registry (expand registry (limits.detecting false) fetch levels chain') before p) :=
    (agreesUnless_congruence _).applyAll (expand_without_detection levels chain chain') before p
  have hmore : AgreesUnless (IsTooDeep limits) _
      (applyAll registry (expand registry (limits.detecting false) fetch levels' chain') before p)
      (applyAll registry (expand registry (limits.detecting false) fetch levels chain') before p) :=
    (agreesUnless_congruence _).applyAll (expand_with_more_levels false hle chain') before p
  rcases hmore with ⟨halt, hfail, hdeep⟩ | hsame
  · refine .inl ⟨halt, hdeep, ?_⟩
    rw [applyAll_append, result_bind_of_error hfail]
  · rcases hdetect with ⟨halt, hfail, -⟩ | hsame'
    · rw [hq] at hfail
      cases hfail
    · refine .inr ⟨e, after, task, q, q', rfl, ?_, hdispatch⟩
      rw [← hsame, hsame', hq]

/-- What leads to a cycle with detection runs out of levels without, once the execution that is
met below itself does with fewer levels. -/
theorem runsOut_of_cycle (hr : registry.ReportsNoCycle)
    (hfetch : ∀ x y, (fetch x).result ≠ .error (.failed (.cycle y))) (hx : x ∉ chain)
    (hfail : (expand registry (limits.detecting true) fetch levels chain x).result
      = .error (.failed (.cycle y))) (hle : levels' ≤ levels)
    (hy : ∀ n < levels', RunsOut registry limits fetch y n) :
    RunsOut registry limits fetch x levels' := by
  -- along the run with detection, which leads down to the cycle
  induction levels generalizing chain x levels' with
  | zero => cases hfail
  | succ levels ih =>
    intro chain'
    cases levels' with
    | zero => exact ⟨_, ⟨x, rfl⟩, rfl⟩
    | succ levels' =>
      obtain ⟨h, before, c, hh, hasks, hchild⟩ := child_of_cycle hr hfetch hx hfail
      have hle' : levels' ≤ levels := Nat.le_of_succ_le_succ hle
      have hc : RunsOut registry limits fetch c levels' := by
        by_cases hmem : c ∈ x :: chain
        · -- the cycle closes here: the child is the execution that is met below itself
          obtain rfl := eq_of_cycle hmem hchild
          exact hy levels' (Nat.lt_succ_self levels')
        · exact ih hmem hchild hle' fun n hn => hy n (Nat.lt_succ_of_lt hn)
      have hdeep : ∃ halt, IsTooDeep limits halt ∧ (applyAll registry
          (expand registry (limits.detecting false) fetch levels' (x :: chain')) h
          (.start x)).result = .error halt := by
        rcases asksFor_without_detection hle' hasks with hdeep | hasks'
        · exact hdeep
        · obtain ⟨halt, hdeep, hfail'⟩ := hc (x :: chain')
          exact ⟨halt, hdeep, applyAll_of_asksFor hasks' hfail'⟩
      obtain ⟨halt, hdeep, hfail'⟩ := hdeep
      refine ⟨halt, hdeep, ?_⟩
      rw [expand_succ (by intro hd; cases hd), result_bind_of_ok hh, result_bind_of_error hfail']

/-- An execution that is met below itself runs out of any number of levels. -/
theorem runsOut_of_entered (hr : registry.ReportsNoCycle)
    (hfetch : ∀ x y, (fetch x).result ≠ .error (.failed (.cycle y))) (hy : y ∉ chain)
    (hfail : (expand registry (limits.detecting true) fetch levels chain y).result
      = .error (.failed (.cycle y))) (n : Nat) : RunsOut registry limits fetch y n := by
  induction n using Nat.strongRecOn with
  | ind n ih =>
    -- the run that meets the cycle is repeated with no fewer than `n` levels
    have hmore : (expand registry (limits.detecting true) fetch (max levels n) chain y).result
        = .error (.failed (.cycle y)) := by
      rcases expand_with_more_levels true (Nat.le_max_left levels n) chain y with
        ⟨halt, hfail', z, rfl⟩ | hsame
      · rw [hfail] at hfail'
        cases hfail'
      · rw [hsame, hfail]
    exact runsOut_of_cycle hr hfetch hy hmore (Nat.le_max_right levels n) ih

/-- Where a projection meets a cycle, it nests too deep without detection. -/
theorem tooDeep_of_cycle (hr : registry.ReportsNoCycle)
    (hfetch : ∀ x y, (fetch x).result ≠ .error (.failed (.cycle y)))
    (hfail : (below registry (limits.detecting true) fetch [] x).result
      = .error (.failed (.cycle y))) :
    ∃ z, (below registry (limits.detecting false) fetch [] x).result
      = .error (.failed (.tooDeep z limits.maxDepth)) := by
  rcases entered_of_cycle hr hfetch hfail with hmem | ⟨levels, chain, hy, hentered⟩
  · cases hmem
  · have hout := runsOut_of_cycle hr hfetch List.not_mem_nil hfail (Nat.le_refl _)
      fun n _ => runsOut_of_entered hr hfetch hy hentered n
    obtain ⟨halt, ⟨z, rfl⟩, hdeep⟩ := hout []
    exact ⟨z, hdeep⟩

end Trace

namespace Session

variable {σ : Type} {source : Source σ} {answers : Execution → Except SourceError History}
  {registry : Registry} {s : Session σ}

/-- Where no cycle is found, it does not matter whether one is looked for. -/
theorem same_of_no_cycle (hs : source.Serves s.source answers) (registry : Registry)
    (limits : Limits) (x : Execution)
    (hnot : ∀ y s', project source registry (limits.detecting true) x s
      ≠ .error (.failed (.cycle y)) s') :
    project source registry (limits.detecting false) x s
      = project source registry (limits.detecting true) x s := by
  simp only [project, Expansion.project_eq_below, below_eq_replay hs] at hnot ⊢
  rcases Trace.expand_without_detection (limits.maxDepth + 1) [] [] x with
    ⟨halt, hfail, y, rfl⟩ | hsame
  · exact absurd (replay_of_error hfail) (hnot y _)
  · exact congrArg (replay source · s) hsame

theorem tooDeep_of_cycle (hs : source.Serves s.source answers) (hr : registry.ReportsNoCycle)
    (limits : Limits) (x y : Execution) (s' : Session σ)
    (hcycle : project source registry (limits.detecting true) x s
      = .error (.failed (.cycle y)) s') :
    ∃ z s'', project source registry (limits.detecting false) x s
      = .error (.failed (.tooDeep z limits.maxDepth)) s'' := by
  simp only [project, Expansion.project_eq_below, below_eq_replay hs] at hcycle ⊢
  have hfetch : ∀ x y, (Trace.ask answers x).result ≠ .error (.failed (.cycle y)) :=
    fun x _ => Trace.result_ask_ne_guard rfl x
  obtain ⟨z, hdeep⟩ := Trace.tooDeep_of_cycle hr hfetch (replay_eq_error_iff.1 hcycle).1
  exact ⟨z, _, replay_of_error hdeep⟩

/-- Refusing an execution below itself changes only for what a projection is given up that nests
too deep otherwise; in all other cases the result and the requests are the same. -/
theorem project_without_detection (hs : source.Serves s.source answers)
    (hr : registry.ReportsNoCycle) (limits : Limits) (x : Execution) :
    ((∀ y s', project source registry (limits.detecting true) x s ≠ .error (.failed (.cycle y)) s') →
      project source registry (limits.detecting false) x s
        = project source registry (limits.detecting true) x s) ∧
    (∀ y s', project source registry (limits.detecting true) x s = .error (.failed (.cycle y)) s' →
      ∃ z s'', project source registry (limits.detecting false) x s
        = .error (.failed (.tooDeep z limits.maxDepth)) s'') ∧
    (∀ g s', project source registry (limits.detecting false) x s = .ok g s' ↔
      project source registry (limits.detecting true) x s = .ok g s') := by
  have hsame := same_of_no_cycle hs registry limits x
  have hdeep := tooDeep_of_cycle hs hr limits x
  refine ⟨hsame, hdeep, ?_⟩
  intro g s'
  constructor
  · intro hok
    rw [← hsame, hok]
    intro y t hcycle
    obtain ⟨z, u, hfail⟩ := hdeep y t hcycle
    rw [hok] at hfail
    cases hfail
  · intro hok
    rw [hsame, hok]
    intro y t hcycle
    rw [hok] at hcycle
    cases hcycle

end Session

namespace Memory

/-- The history of an execution that starts itself. -/
def circle : Memory :=
  empty.insert ⟨"circle", "1"⟩
    [.of ⟨1⟩ (.childInitiated "acme.Again"), .of ⟨2⟩ (.childStarted ⟨1⟩ ⟨"circle", "1"⟩)]

/-- The circle, not looked for, is entered until it is too deep. -/
theorem circle_without_detection :
    ∃ z s, Session.project fetch .standard (Limits.detecting {} false) ⟨"circle", "1"⟩
      (.start circle) = .error (.failed (.tooDeep z 16)) s :=
  (Session.project_without_detection (s := .start circle) circle.serves
    Registry.standard_reportsNoCycle {} ⟨"circle", "1"⟩).2.1 ⟨"circle", "1"⟩ _ rfl

end Memory

end HistoryTree
