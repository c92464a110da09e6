import HistoryTree.Proofs.Expansion.Failure
import HistoryTree.Proofs.Expansion.Guards
import HistoryTree.Proofs.Projection.Consistency

/-!
# Expansions report no internal check

Between the check that a task can start a child and the step that attaches the tasks of the child
lies the whole expansion of the child.  The projection of the parent waits unchanged meanwhile, so
the check still holds.  With a consistent registry, no expansion fails for an internal cause,
whatever the source does (`Run.Consistent.expand`); the standard registry is consistent, with
any types taken out (`Session.standard_passes_internal_checks`).
-/

namespace HistoryTree

/-- A computation that never fails for an internal cause. -/
def Run.Consistent {σ α : Type} (run : Run σ α) : Prop :=
  ∀ s cause s', run s = .error (.failed cause) s' → cause.isInternal = false

namespace Run.Consistent

variable {σ α β : Type} {run : Run σ α} {registry : Registry} {limits : Limits}
  {x : Execution}

theorem pure (a : α) : Run.Consistent (pure a : Run σ α) := by
  rintro s cause s' ⟨⟩

/-- A failure for another cause than an internal one is consistent. -/
theorem throw {cause : ProjectionError} (h : cause.isInternal = false) :
    Run.Consistent (throw (.failed cause) : Run σ α) := by
  rintro s cause' s' ⟨⟩
  exact h

/-- Consistent computations, one behind the other, are consistent. -/
theorem bind {f : α → Run σ β} (hrun : Run.Consistent run) (hf : ∀ a, Run.Consistent (f a)) :
    Run.Consistent (run >>= f) := by
  intro s cause s' h
  have hbind : EStateM.bind run f s = .error (.failed cause) s' := h
  rw [EStateM.bind] at hbind
  cases hs : run s with
  | ok a t =>
    rw [hs] at hbind
    exact hf a t cause s' hbind
  | error halt t =>
    rw [hs] at hbind
    cases hbind
    exact hrun s cause s' hs

/-- Where a request fails, the source is the cause. -/
theorem fetch (source : Source σ) (limits : Limits) (watching : Bool) (x : Execution) :
    Run.Consistent (Session.fetch source limits watching x) := by
  intro s cause s' h
  obtain ⟨t, -, ⟨_, hfetch⟩ | ⟨_, hfetch⟩ | hfetch⟩ :=
    Session.fetch_cases source limits watching x s
  · rw [hfetch] at h
    cases h
  · rw [hfetch] at h
    cases h
    rfl
  · rw [hfetch] at h
    cases h

/-- The induction is on the history: an event is handled without an internal failure, and after
the child it asks for, the tasks of the child can be attached. -/
theorem applyAll (hr : registry.Consistent) {project : Execution → Run σ TaskGroup}
    (hproject : ∀ c, Run.Consistent (project c)) (h : History) (p : Projection) :
    Run.Consistent (Expansion.applyAll registry project h p) := by
  induction h generalizing p with
  | nil => exact pure p
  | cons e rest ih =>
    rw [Expansion.applyAll]
    cases hdispatch : registry.dispatch e p with
    | error cause q => exact throw (hr.not_internal e p cause q hdispatch)
    | ok outcome q =>
      cases outcome with
      | applied => exact ih q
      | expandChild task child =>
        refine bind (hproject child) fun g => ?_
        obtain ⟨slot, t, -, hattach⟩ := hr.attaches e p task child q hdispatch g
        rw [hattach]
        exact ih _

/-- The induction is on the levels that are left. -/
theorem expand (hr : registry.Consistent) {fetch : Execution → Run σ History}
    (hfetch : ∀ x, Run.Consistent (fetch x)) (levels : Nat) (chain : List Execution)
    (x : Execution) :
    Run.Consistent (Expansion.expand registry limits fetch levels chain x) := by
  induction levels generalizing chain x with
  | zero => exact throw rfl
  | succ levels ih =>
    have hrest : Run.Consistent (do
        let events ← fetch x
        let p ← Expansion.applyAll registry
          (Expansion.expand registry limits fetch levels (x :: chain)) events (.start x)
        return p.group) := by
      refine bind (hfetch x) fun events => bind ?_ fun p => pure _
      exact applyAll hr (fun c => ih (x :: chain) c) events _
    rw [Expansion.expand]
    split
    · exact bind (throw rfl) fun _ => hrest
    · exact hrest

theorem projectUnlessCancelled (hr : registry.Consistent) (source : Source σ) (x : Execution) :
    Run.Consistent (Session.projectUnlessCancelled source registry limits x) := by
  intro s cause s' h
  cases hcancelled : s.cancelled with
  | true =>
    rw [Session.projectUnlessCancelled_of_cancelled source hcancelled] at h
    cases h
    rfl
  | false =>
    rw [Session.projectUnlessCancelled_of_not_cancelled source hcancelled] at h
    exact expand hr (fetch source limits true) _ [] x s cause s' h

end Run.Consistent

namespace Session

open Projection

/-- The internal checks of the standard handlers always pass, whatever types are taken out of the
registry.  No projection fails for an internal cause, from any source.  Each event that moves a
task says which one.  A timer that was created runs at once.  Where a child is asked for, the
task that started it takes its tasks in and runs, whatever they are, and nothing else changes. -/
theorem standard_passes_internal_checks (types : List EventType) :
    (∀ {σ : Type} (source : Source σ) limits x (s : Session σ) cause s',
      project source (Registry.standard.unregisterAll types) limits x s
          = .error (.failed cause) s' ∨
        projectUnlessCancelled source (Registry.standard.unregisterAll types) limits x s
          = .error (.failed cause) s' →
      cause.isInternal = false) ∧
    (∀ (e : HistoryEvent) next, e.type.rule? = some (.moveTask next) →
      ∃ task, e.kind.reference? = some task) ∧
    (∀ (e : HistoryEvent) p q, e.type = .timerStarted →
      create e.id (.scheduled e.id timerLabel) p = .ok () q →
      advance e.id e.id .running q = .ok () (p.push ⟨e.id, timerLabel, .running, none⟩) ∧
        Registry.standard.dispatch e p
          = .ok .applied (p.push ⟨e.id, timerLabel, .running, none⟩)) ∧
    ∀ e p task child q,
      (Registry.standard.unregisterAll types).dispatch e p = .ok (.expandChild task child) q →
      ∀ g, ∃ slot t, q.resolve? task = some (slot, t) ∧
        attachChild e.id task g q = .ok () (q.setTask slot (t.expanded g.tasks)) := by
  have hr := Registry.standard_consistent.unregisterAll types
  refine ⟨?_, ?_, ?_, hr.attaches⟩
  · intro σ source limits x s cause s' h
    rcases h with h | h
    · exact Run.Consistent.expand hr (.fetch source limits false) _ [] x s cause s' h
    · exact Run.Consistent.projectUnlessCancelled hr source x s cause s' h
  · intro e next hrule
    exact Registry.exists_reference?_of_moveTask hrule
  · intro e p q htype hcreate
    exact ⟨advance_of_create hcreate, Registry.timer_dispatch_of_create htype hcreate⟩

end Session

namespace Memory

open Projection

/-- The order without its payment fails for a missing history.  Its timer runs, the event that
fires the timer names it, and the tasks of the payment could have been attached. -/
theorem unpaid_passes_internal_checks :
    let payment : Execution := ⟨"payment", "1"⟩
    let p : Projection := .start ⟨"order", "1"⟩
    let initiated : Task := .scheduled ⟨1⟩ "Pay"
    (∃ s' : Session Memory, Session.project fetch (Registry.standard.unregisterAll [.timerFired]) {}
        ⟨"order", "1"⟩ (.start unpaid) = .error (.failed (.source (.notFound payment))) s' ∧
      (ProjectionError.source (.notFound payment)).isInternal = false) ∧
    (∃ task, (EventKind.timerFired ⟨4⟩).reference? = some task) ∧
    advance ⟨4⟩ ⟨4⟩ .running (p.push (.scheduled ⟨4⟩ timerLabel))
      = .ok () (p.push ⟨⟨4⟩, timerLabel, .running, none⟩) ∧
    ∀ g, ∃ slot t, (p.push initiated).resolve? ⟨1⟩ = some (slot, t) ∧
      attachChild ⟨2⟩ ⟨1⟩ g (p.push initiated)
        = .ok () ((p.push initiated).setTask slot (t.expanded g.tasks)) := by
  intro payment p initiated
  obtain ⟨hfails, hnames, htimer, hattaches⟩ :=
    Session.standard_passes_internal_checks [.timerFired]
  refine ⟨⟨_, rfl, ?_⟩, ?_, ?_, ?_⟩
  · exact hfails fetch {} ⟨"order", "1"⟩ (.start unpaid) _ _ (.inl rfl)
  · exact hnames (.of ⟨5⟩ (.timerFired ⟨4⟩)) .completed rfl
  · exact (htimer (.of ⟨4⟩ (.timerStarted none)) p _ rfl rfl).1
  · exact hattaches (.of ⟨2⟩ (.childStarted ⟨1⟩ payment)) (p.push initiated) ⟨1⟩ payment _ rfl

end Memory

end HistoryTree
