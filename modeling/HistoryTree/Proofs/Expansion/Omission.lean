import HistoryTree.Proofs.Expansion.Trace
import HistoryTree.Proofs.Projection.Reduced

/-!
# Histories without some events

Events that a registry has no handler for are passed over.  So it is the same to take types out of
the registry and to take their events out of all histories, those of child executions included:
the two computations are equal, with the requests they make, whatever the handlers, the limits and
the source are (`Session.project_unregister_eq_omitting`).
-/

namespace HistoryTree

/-- The history without the events of any of the types. -/
def History.omitting (h : History) (types : List EventType) : History :=
  h.filter (·.type ∉ types)

/-- The reading without the events of any of the types. -/
def Reading.omitting (reading : Reading) (types : List EventType) : Reading :=
  match reading with
  | .streamed events ending => .streamed (events.omitting types) ending
  | .refused e => .refused e
  | .unanswered => .unanswered

/-- The source that leaves the events of any of the types out of all histories. -/
def Source.omitting {σ : Type} (source : Source σ) (types : List EventType) : Source σ :=
  fun x s => ((source x s).1.omitting types, (source x s).2)

theorem History.omitting_cons (e : HistoryEvent) (h : History) (types : List EventType) :
    omitting (e :: h) types
      = if e.type ∈ types then omitting h types else e :: omitting h types := by
  rw [omitting, List.filter_cons]
  by_cases htype : e.type ∈ types
  · simp [htype, omitting]
  · simp [htype, omitting]

/-! ## Expansions -/

namespace Expansion

variable {m : Type → Type} [Monad m] [MonadExceptOf Halt m] {r : Registry} {types : List EventType}

/-- An event of one of the types is passed over, wherever it stands in the history. -/
theorem applyAll_unregisterAll (project : Execution → m TaskGroup) (h : History) (p : Projection) :
    applyAll (r.unregisterAll types) project h p = applyAll r project (h.omitting types) p := by
  induction h generalizing p with
  | nil => rfl
  | cons e rest ih =>
    rw [applyAll, Registry.dispatch_unregisterAll, History.omitting_cons]
    by_cases htype : e.type ∈ types
    · rw [if_pos htype, if_pos htype]
      exact ih p
    · rw [if_neg htype, if_neg htype, applyAll]
      simp only [ih]

end Expansion

/-! ## Sessions -/

namespace Session

variable {σ : Type} {r : Registry} {types : List EventType}

/-- The wait for a history that does not end brings no history of which something could be left
out. -/
theorem map_wait (limits : Limits) (watching : Bool) (x : Execution) (f : History → History) :
    f <$> (wait limits watching x : Run σ History) = wait limits watching x := by
  funext s
  show EStateM.map f (wait limits watching x) s = _
  rw [EStateM.map, wait]
  cases watching && s.cancelled with
  | true => rfl
  | false => rfl

/-- What is left out of the answers of a source is left out of the histories that arrive, and
nothing else changes. -/
theorem fetch_omitting (source : Source σ) (limits : Limits) (watching : Bool) (x : Execution) :
    fetch (source.omitting types) limits watching x
      = (·.omitting types) <$> fetch source limits watching x := by
  have hwait : (·.omitting types) <$> (wait limits watching x : Run σ History)
      = wait limits watching x := map_wait limits watching x _
  funext s
  show _ = EStateM.map (·.omitting types) (fetch source limits watching x) s
  rw [fetch, EStateM.map, fetch]
  simp only [Source.omitting]
  generalize source x s.source = answer
  obtain ⟨reading, next⟩ := answer
  cases reading with
  | refused e => rfl
  | unanswered => exact (congrFun hwait _).symm
  | streamed events ending =>
    cases ending with
    | complete => rfl
    | broke e => rfl
    | stalled => exact (congrFun hwait _).symm
    | cancelling => exact (congrFun hwait _).symm

/-- To expand without some types is to expand histories without the events of these types. -/
theorem expansion_unregisterAll (source : Source σ) (limits : Limits) (watching : Bool)
    (x : Execution) :
    Expansion.project (r.unregisterAll types) limits (fetch source limits watching) x
      = Expansion.project r limits (fetch (source.omitting types) limits watching) x := by
  rw [funext (fetch_omitting source limits watching)]
  exact Expansion.expand_map Expansion.applyAll_unregisterAll (fetch source limits watching) _ [] x

theorem project_unregisterAll (source : Source σ) (limits : Limits) (x : Execution)
    (types : List EventType) :
    project source (r.unregisterAll types) limits x
      = project (source.omitting types) r limits x :=
  expansion_unregisterAll source limits false x

theorem projectUnlessCancelled_unregisterAll (source : Source σ) (limits : Limits)
    (x : Execution) (types : List EventType) :
    projectUnlessCancelled source (r.unregisterAll types) limits x
      = projectUnlessCancelled (source.omitting types) r limits x := by
  rw [projectUnlessCancelled, projectUnlessCancelled, expansion_unregisterAll]

/-- A registry from which a type is taken out projects as the whole registry projects from the
source that leaves the events of this type out of all histories: both lead to the same result, and
to the same session with the same requests, from every session.  Events of types that are not
registered can be left out of all histories without a change. -/
theorem project_unregister_eq_omitting (source : Source σ) (r : Registry) (limits : Limits)
    (x : Execution) :
    (∀ t, project source (r.unregister t) limits x = project (source.omitting [t]) r limits x ∧
      projectUnlessCancelled source (r.unregister t) limits x
        = projectUnlessCancelled (source.omitting [t]) r limits x) ∧
    ∀ types, (∀ t ∈ types, r.isRegistered t = false) →
      project (source.omitting types) r limits x = project source r limits x ∧
      projectUnlessCancelled (source.omitting types) r limits x
        = projectUnlessCancelled source r limits x := by
  constructor
  · intro t
    exact ⟨project_unregisterAll source limits x [t],
      projectUnlessCancelled_unregisterAll source limits x [t]⟩
  · intro types hnone
    have hsame := Registry.unregisterAll_eq_self hnone
    rw [← project_unregisterAll, ← projectUnlessCancelled_unregisterAll, hsame]
    exact ⟨rfl, rfl⟩

end Session

/-! ## Histories in memory -/

namespace Memory

/-- The histories in memory without the events of any of the types. -/
def omitting (m : Memory) (types : List EventType) : Memory :=
  { m with histories := m.histories.map fun (x, h) => (x, h.omitting types) }

/-- A history in memory is found without the events that were left out. -/
theorem history?_omitting (m : Memory) (types : List EventType) (x : Execution) :
    (m.omitting types).history? x = (m.history? x).map (·.omitting types) := by
  rw [history?, history?, omitting]
  induction m.histories with
  | nil => rfl
  | cons entry rest ih =>
    obtain ⟨y, h⟩ := entry
    rw [List.map_cons, List.lookup_cons, List.lookup_cons, ih]
    split
    · rfl
    · rfl

/-- To leave events out of the histories in memory is to leave them out of the answers. -/
theorem fetch_omitting (m : Memory) (types : List EventType) (x : Execution) :
    (fetch.omitting types x m).1 = (fetch x (m.omitting types)).1 := by
  simp only [fetch, Source.omitting, history?_omitting]
  cases m.history? x with
  | none => rfl
  | some h => rfl

/-- The history of a parcel, with events that the task tree does not track. -/
def parcel : Memory :=
  empty.insert ⟨"parcel", "1"⟩
    [.of ⟨1⟩ .workflowStarted, .of ⟨2⟩ .decisionScheduled, .of ⟨3⟩ (.activityScheduled "acme.Wrap"),
      .of ⟨4⟩ (.markerRecorded "fragile"), .of ⟨5⟩ (.activityCompleted ⟨3⟩)]

/-- Decisions and markers can be left out of the history of the parcel. -/
theorem parcel_without_markers :
    let types := [EventType.decisionScheduled, .markerRecorded]
    (∀ t ∈ types, Registry.standard.isRegistered t = false) ∧
      ((parcel.omitting types).history? ⟨"parcel", "1"⟩).map List.length = some 3 ∧
      Session.project (fetch.omitting types) .standard {} ⟨"parcel", "1"⟩ (.start parcel)
        = Session.project fetch .standard {} ⟨"parcel", "1"⟩ (.start parcel) := by
  intro types
  have hnone : ∀ t ∈ types, Registry.standard.isRegistered t = false := by decide
  refine ⟨hnone, rfl, ?_⟩
  exact congrFun ((Session.project_unregister_eq_omitting fetch .standard {} ⟨"parcel", "1"⟩).2
    types hnone).1 _

end Memory

end HistoryTree
