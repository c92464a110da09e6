import HistoryTree.Proofs.Expansion.Course
import HistoryTree.Source.Memory
import Mathlib.Data.List.Induction

/-!
# The guards look at the open calls

The record of an expansion tells which calls are open: those that were entered and not left
since (`openAfter`).  Whatever the handlers do, and however the expansion ends, the shared list
of ancestors holds just the executions of the open calls when the guards look at it, and when a
call returns the list is again what it was when the call was entered
(`Session.guards_see_open_calls`).  So an execution counts as a cycle only below itself, not
because it was projected before.

`Keeps` is the invariant: a part of an expansion that starts with the list as it should be gives
it back so, and adds an `Orderly` part to the record.  There is one lemma for each of the steps
that a walk is made of, and one induction over the levels (`keeps_visit`).
-/

namespace HistoryTree

/-! ## Open calls -/

namespace Moment

/-- The executions whose calls are open after a moment, the innermost first. -/
def after (opened : List Execution) : Moment → List Execution
  | refused .. => opened
  | entered x _ => x :: opened
  | left .. => opened.tail

/-- The ancestors at a moment are the executions whose calls are open, and the guards decide by
them; a call that returns is the innermost one. -/
def Fits (limits : Limits) (opened : List Execution) : Moment → Prop
  | refused x ancestors cause => ancestors = opened ∧ limits.refusal? opened x = some cause
  | entered x ancestors => ancestors = opened ∧ limits.Permits opened x
  | left x ancestors => x :: ancestors = opened

/-- The execution that is entered, if one is. -/
def entered? : Moment → Option Execution
  | entered x _ => some x
  | _ => none

/-- Whether a call returns from an execution that it entered. -/
def isLeft : Moment → Bool
  | left .. => true
  | _ => false

end Moment

/-- The executions whose calls are open after a record, the innermost first. -/
def openAfter (opened : List Execution) (log : List Moment) : List Execution :=
  log.foldl Moment.after opened

/-- Every moment of a record fits the calls that are open then. -/
def Orderly (limits : Limits) : List Execution → List Moment → Prop
  | _, [] => True
  | opened, m :: log => m.Fits limits opened ∧ Orderly limits (m.after opened) log

section Records

variable {limits : Limits} {opened above ancestors : List Execution} {log log' : List Moment}
  {m : Moment} {x : Execution}

/-- The calls that are open after a log are told by what was open before each part of it. -/
theorem openAfter_append :
    openAfter opened (log ++ log') = openAfter (openAfter opened log) log' :=
  List.foldl_append

/-- A log is orderly if its parts are, the second one with what the first leaves open. -/
theorem orderly_append : Orderly limits opened (log ++ log') ↔
    Orderly limits opened log ∧ Orderly limits (openAfter opened log) log' := by
  induction log generalizing opened with
  | nil => simp [Orderly, openAfter]
  | cons m log ih =>
    rw [List.cons_append, Orderly, Orderly, ih, and_assoc]
    rfl

theorem orderly_singleton : Orderly limits opened [m] ↔ m.Fits limits opened :=
  and_iff_left trivial

/-- An open call was entered below the calls that are open around it, and has been open ever
since. -/
theorem Orderly.exists_entered (h : Orderly limits [] log)
    (hopen : openAfter [] log = above ++ x :: ancestors) :
    ∃ before inner, log = before ++ .entered x ancestors :: inner ∧
      ∀ part, part <+: inner →
        x :: ancestors <:+ openAfter [] (before ++ .entered x ancestors :: part) := by
  induction log using List.reverseRecOn generalizing above with
  | nil => simp [openAfter] at hopen
  | append_singleton log m ih =>
    obtain ⟨hlog, hm⟩ := orderly_append.1 h
    rw [orderly_singleton] at hm
    -- a call that was open before this moment already
    have extend : ∀ above', openAfter [] log = above' ++ x :: ancestors →
        ∃ before inner, log ++ [m] = before ++ .entered x ancestors :: inner ∧
          ∀ part, part <+: inner →
            x :: ancestors <:+ openAfter [] (before ++ .entered x ancestors :: part) := by
      intro above' hopen'
      obtain ⟨before, inner, rfl, hpart⟩ := ih hlog hopen'
      refine ⟨before, inner ++ [m], by simp, ?_⟩
      intro part hprefix
      rcases List.prefix_concat_iff.1 hprefix with rfl | hprefix
      · refine ⟨above, ?_⟩
        rw [← hopen, List.append_assoc, List.cons_append]
      · exact hpart part hprefix
    have hafter : m.after (openAfter [] log) = above ++ x :: ancestors := by
      rw [← hopen, openAfter_append]
      rfl
    cases m with
    | refused y ys cause => exact extend above hafter
    | entered y ys =>
      cases above with
      | nil =>
        obtain ⟨rfl, hrest⟩ := List.cons.inj hafter
        obtain rfl : ys = ancestors := hm.1.trans hrest
        refine ⟨log, [], rfl, ?_⟩
        intro part hprefix
        obtain rfl := List.prefix_nil.1 hprefix
        rw [hopen]
        exact List.suffix_refl _
      | cons z above => exact extend above (List.cons.inj hafter).2
    | left y ys =>
      have htail : ys = above ++ x :: ancestors := by
        rw [← hafter, Moment.after, ← hm, List.tail_cons]
      exact extend (y :: above) (by rw [← hm, htail, List.cons_append])

end Records

/-! ## Parts of an expansion -/

/-- Whether a computation returns, with a result or with a failure. -/
def returns {τ α : Type} : EStateM.Result Halt τ α → Bool
  | .error (.waiting _) _ => false
  | _ => true

/-- An execution was refused for a cause, and all that followed are returns of open calls. -/
def RefusedLast (cause : ProjectionError) (log : List Moment) : Prop :=
  ∃ before x ancestors after, log = before ++ .refused x ancestors cause :: after ∧
    ∀ m ∈ after, m.isLeft = true

theorem RefusedLast.after {cause : ProjectionError} {log : List Moment} (before : List Moment)
    (h : RefusedLast cause log) : RefusedLast cause (before ++ log) := by
  obtain ⟨before', x, ancestors, after, rfl, hafter⟩ := h
  exact ⟨before ++ before', x, ancestors, after, by simp, hafter⟩

theorem RefusedLast.left {cause : ProjectionError} {log : List Moment} (x : Execution)
    (ancestors : List Execution) (h : RefusedLast cause log) :
    RefusedLast cause (log ++ [.left x ancestors]) := by
  obtain ⟨before, y, ys, after, rfl, hafter⟩ := h
  refine ⟨before, y, ys, after ++ [.left x ancestors], by simp, ?_⟩
  intro m hm
  rcases List.mem_append.1 hm with hm | hm
  · exact hafter m hm
  · rw [List.mem_singleton.1 hm]
    rfl

/-- What a part of an expansion adds to a course on which the calls `opened` are open: a record
with an entry for every request, after which the calls `closed` are open. -/
structure Passage {σ α : Type} (limits : Limits) (opened closed : List Execution) (w : Course σ)
    (r : EStateM.Result Halt (Course σ) α) (log : List Moment) : Prop where
  calls : (stateAfter r).calls = w.calls ++ log
  orderly : Orderly limits opened log
  fetched : (stateAfter r).session.fetched = w.session.fetched ++ log.filterMap Moment.entered?
  returned : returns r = true →
    (stateAfter r).ancestors = w.ancestors ∧ openAfter opened log = closed
  refused : ∀ cause w', r = .error (.failed cause) w' → cause.isGuard = true →
    RefusedLast cause log

section Lastly

variable {τ α : Type} {last : τ → τ} {r : EStateM.Result Halt τ α}

theorem lastly_of_waiting (h : returns r = false) : lastly last r = r := by
  match r, h with
  | .error (.waiting _) _, _ => rfl

theorem stateAfter_lastly (last : τ → τ) (h : returns r = true) :
    stateAfter (lastly last r) = last (stateAfter r) := by
  match r, h with
  | .ok _ _, _ => rfl
  | .error (.failed _) _, _ => rfl

theorem exists_of_lastly_eq_failed {cause : ProjectionError} {w : τ}
    (h : lastly last r = .error (.failed cause) w) : ∃ w', r = .error (.failed cause) w' := by
  match r, h with
  | .error (.failed _) w', rfl => exact ⟨w', rfl⟩

end Lastly

namespace Passage

variable {σ α β : Type} {limits : Limits} {opened middle closed : List Execution}
  {w w' : Course σ} {r : EStateM.Result Halt (Course σ) α} {r' : EStateM.Result Halt (Course σ) β}
  {log log' : List Moment} {a : α} {halt : Halt}

/-- A part that makes no call. -/
theorem nil (hcalls : (stateAfter r).calls = w.calls)
    (hfetched : (stateAfter r).session.fetched = w.session.fetched)
    (hancestors : (stateAfter r).ancestors = w.ancestors)
    (hcause : ∀ cause w', r = .error (.failed cause) w' → cause.isGuard = false) :
    Passage limits opened opened w r [] where
  calls := by rw [hcalls, List.append_nil]
  orderly := trivial
  fetched := by rw [hfetched, List.filterMap_nil, List.append_nil]
  returned _ := ⟨hancestors, rfl⟩
  refused cause w' hr hguard := absurd (hcause cause w' hr) (by simp [hguard])

/-- A passage behind a passage is a passage. -/
theorem append (h : Passage limits opened middle w (.ok a w' : EStateM.Result Halt _ α) log)
    (h' : Passage limits middle closed w' r' log') :
    Passage limits opened closed w r' (log ++ log') where
  calls := by rw [h'.calls, show w'.calls = w.calls ++ log from h.calls, List.append_assoc]
  orderly := orderly_append.2 ⟨h.orderly, (h.returned rfl).2 ▸ h'.orderly⟩
  fetched := by
    rw [h'.fetched, show w'.session.fetched = _ from h.fetched, List.filterMap_append,
      List.append_assoc]
  returned hr := by
    obtain ⟨hancestors, hmiddle⟩ := h.returned rfl
    obtain ⟨hancestors', hclosed⟩ := h'.returned hr
    exact ⟨hancestors'.trans hancestors, by rw [openAfter_append, hmiddle, hclosed]⟩
  refused cause w'' hr hguard := (h'.refused cause w'' hr hguard).after log

/-- Nothing follows a part that does not succeed. -/
theorem stop (h : Passage limits opened closed w (.error halt w' : EStateM.Result Halt _ α) log) :
    Passage limits opened closed w (.error halt w' : EStateM.Result Halt _ β) log where
  calls := h.calls
  orderly := h.orderly
  fetched := h.fetched
  returned hr := h.returned (by cases halt <;> exact hr)
  refused cause w'' hr := h.refused cause w'' (by cases hr; rfl)

end Passage

namespace Session

variable {σ : Type} (source : Source σ) (limits : Limits) (watching : Bool) (x : Execution)
  (s : Session σ)

/-- A wait ends with a failure of the source, or does not end. -/
theorem wait_cases : (∃ e, wait limits watching x s = .error (.failed (.source e)) s) ∨
    wait limits watching x s = .error (.waiting x) s := by
  rw [wait]
  split
  · exact .inl ⟨.cancelled, rfl⟩
  · rw [Limits.giveUp]
    split
    · exact .inl ⟨.timeout x, rfl⟩
    · exact .inr rfl

/-- Every request is remembered, and where it fails the source is the cause. -/
theorem fetch_cases : ∃ s' : Session σ, s'.fetched = s.fetched ++ [x] ∧
    ((∃ h, fetch source limits watching x s = .ok h s') ∨
      (∃ e, fetch source limits watching x s = .error (.failed (.source e)) s') ∨
      fetch source limits watching x s = .error (.waiting x) s') := by
  rw [fetch]
  cases source x s.source with
  | mk reading next =>
    dsimp only
    cases reading.drain with
    | history h => exact ⟨_, rfl, .inl ⟨h, rfl⟩⟩
    | failed e => exact ⟨_, rfl, .inr (.inl ⟨e, rfl⟩)⟩
    | stalled =>
      exact ⟨{ s with source := next, fetched := s.fetched ++ [x] }, rfl,
        .inr (wait_cases limits watching x _)⟩
    | cancelling =>
      exact ⟨{ s with source := next, fetched := s.fetched ++ [x], cancelled := true }, rfl,
        .inr (wait_cases limits watching x _)⟩

end Session

namespace Walk

variable {σ α β : Type} {source : Source σ} {limits : Limits} {watching : Bool}
  {chain opened middle closed : List Execution} {x : Execution} {walk : Walk σ α}
  {dispatch : Dispatch σ}

/-- Wherever it starts with the ancestors `chain` while the calls `opened` are open, a part of an
expansion gives the list back, with the calls `closed` open. -/
def Keeps (limits : Limits) (chain opened closed : List Execution) (walk : Walk σ α) : Prop :=
  ∀ w, w.ancestors = chain → ∃ log, Passage limits opened closed w (walk w) log

theorem keeps_pure (a : α) : Keeps limits chain opened opened (pure a : Walk σ α) :=
  fun _ _ => ⟨[], .nil rfl rfl rfl (by rintro _ _ ⟨⟩)⟩

theorem keeps_throw {cause : ProjectionError} (hcause : cause.isGuard = false) :
    Keeps limits chain opened opened (throw (.failed cause) : Walk σ α) := by
  refine fun _ _ => ⟨[], .nil rfl rfl rfl ?_⟩
  rintro _ _ ⟨⟩
  exact hcause

/-- Walks, one behind the other, keep the record of calls if each does. -/
theorem keeps_bind {f : α → Walk σ β} (hwalk : Keeps limits chain opened middle walk)
    (hf : ∀ a, Keeps limits chain middle middle (f a)) :
    Keeps limits chain opened middle (walk >>= f) := by
  intro w hw
  obtain ⟨log, hlog⟩ := hwalk w hw
  show ∃ log, Passage limits opened middle w (EStateM.bind walk f w) log
  rw [EStateM.bind]
  cases h : walk w with
  | ok a w' =>
    rw [h] at hlog
    obtain ⟨log', hlog'⟩ := hf a w' ((hlog.returned rfl).1.trans hw)
    exact ⟨log ++ log', hlog.append hlog'⟩
  | error halt w' =>
    rw [h] at hlog
    exact ⟨log, hlog.stop⟩

/-- What a guard refuses is on record as refused, with the chain that it saw. -/
theorem keeps_guarded (hwalk : limits.Permits chain x → Keeps limits chain chain chain walk) :
    Keeps limits chain chain chain (guarded limits x walk) := by
  rintro w rfl
  rw [guarded]
  cases h : limits.refusal? w.ancestors x with
  | none => exact hwalk (Limits.refusal?_eq_none_iff.1 h) w rfl
  | some cause =>
    refine ⟨[.refused x w.ancestors cause], rfl, orderly_singleton.2 ⟨rfl, h⟩, ?_, ?_, ?_⟩
    · exact (List.append_nil _).symm
    · exact fun _ => ⟨rfl, rfl⟩
    · rintro _ _ ⟨⟩ -
      exact ⟨[], x, w.ancestors, [], rfl, by simp⟩

theorem keeps_below (hwalk : Keeps limits (x :: chain) opened closed walk) :
    Keeps limits chain opened closed (below x walk) := by
  rintro w rfl
  obtain ⟨log, hlog⟩ := hwalk (w.push x) rfl
  refine ⟨log, ?_⟩
  rw [below]
  cases hr : returns (walk (w.push x)) with
  | false =>
    rw [lastly_of_waiting hr]
    exact ⟨hlog.calls, hlog.orderly, hlog.fetched, by simp [hr], hlog.refused⟩
  | true =>
    have hstate := stateAfter_lastly Course.pop hr
    refine ⟨?_, hlog.orderly, ?_, ?_, ?_⟩
    · rw [hstate]
      exact hlog.calls
    · rw [hstate]
      exact hlog.fetched
    · intro _
      obtain ⟨hancestors, hclosed⟩ := hlog.returned hr
      refine ⟨?_, hclosed⟩
      rw [hstate, Course.pop, hancestors]
      rfl
    · intro cause w' h
      obtain ⟨w'', h⟩ := exists_of_lastly_eq_failed h
      exact hlog.refused cause w'' h

/-- To leave an execution closes the call that it opened. -/
theorem keeps_leaving (hwalk : Keeps limits chain chain (x :: chain) walk) :
    Keeps limits chain chain chain (leaving x walk) := by
  rintro w rfl
  obtain ⟨log, hlog⟩ := hwalk w rfl
  rw [leaving]
  cases hr : returns (walk w) with
  | false =>
    rw [lastly_of_waiting hr]
    exact ⟨log, hlog.calls, hlog.orderly, hlog.fetched, by simp [hr], hlog.refused⟩
  | true =>
    have hstate := stateAfter_lastly (fun w' : Course σ => w'.note (.left x)) hr
    obtain ⟨hancestors, hclosed⟩ := hlog.returned hr
    refine ⟨log ++ [.left x w.ancestors], ?_, ?_, ?_, ?_, ?_⟩
    · rw [hstate, Course.note, hancestors, hlog.calls, List.append_assoc]
    · exact orderly_append.2 ⟨hlog.orderly, orderly_singleton.2 hclosed.symm⟩
    · rw [hstate, List.filterMap_append]
      exact hlog.fetched.trans (by simp [Moment.entered?])
    · intro _
      refine ⟨by rw [hstate]; exact hancestors, ?_⟩
      rw [openAfter_append, hclosed]
      rfl
    · intro cause w' h hguard
      obtain ⟨w'', h⟩ := exists_of_lastly_eq_failed h
      exact (hlog.refused cause w'' h hguard).left x w.ancestors

/-- To enter an execution puts it on record, with the chain above it. -/
theorem keeps_entering (h : limits.Permits chain x) :
    Keeps limits chain chain (x :: chain)
      (entering x (Session.fetch source limits watching x)) := by
  rintro w rfl
  refine ⟨[.entered x w.ancestors], ?_⟩
  rw [entering]
  obtain ⟨s, hs, ⟨events, hfetch⟩ | ⟨e, hfetch⟩ | hfetch⟩ :=
    Session.fetch_cases source limits watching x w.session
  all_goals
    rw [hfetch]
    refine ⟨rfl, orderly_singleton.2 ⟨rfl, h⟩, hs, fun _ => ⟨rfl, rfl⟩, ?_⟩
    rintro _ _ ⟨⟩ ⟨⟩

/-- What the handlers do to the source does not touch the list, the record, or the requests. -/
theorem keeps_handle (hd : dispatch.LeavesGuards) (e : HistoryEvent) (p : Projection)
    {f : EStateM.Result ProjectionError Projection Outcome → Walk σ α}
    (hf : ∀ outcome, (∀ cause q, cause.isGuard = true → outcome ≠ .error cause q) →
      Keeps limits chain opened closed (f outcome)) :
    Keeps limits chain opened closed (handle dispatch e p >>= f) := by
  intro w hw
  obtain ⟨log, hlog⟩ := hf (dispatch e p w.session.source).1
    (fun cause q hguard => hd cause hguard e p w.session.source q)
    { w with session := { w.session with source := (dispatch e p w.session.source).2 } } hw
  exact ⟨log, hlog.calls, hlog.orderly, hlog.fetched, hlog.returned, hlog.refused⟩

/-- To apply a history keeps the record if visiting its children does. -/
theorem keeps_applyAll (hd : dispatch.LeavesGuards) {visit : Execution → Walk σ TaskGroup}
    (hvisit : ∀ c, Keeps limits chain opened opened (visit c)) (h : History) (p : Projection) :
    Keeps limits chain opened opened (applyAll dispatch visit h p) := by
  induction h generalizing p with
  | nil => exact keeps_pure p
  | cons e rest ih =>
    rw [applyAll]
    refine keeps_handle hd e p fun outcome hcause => ?_
    split
    · rename_i cause q
      exact keeps_throw (Bool.eq_false_iff.2 fun hguard => hcause cause q hguard rfl)
    · exact ih _
    · rename_i task child q
      refine keeps_bind (hvisit child) fun g => ?_
      split
      · rename_i cause q' hattach
        refine keeps_throw (Bool.eq_false_iff.2 fun hguard => ?_)
        exact Step.Spares.attachChild hguard e.id task g q q' hattach
      · exact ih _

/-- An expansion keeps the chain at which it starts, with as many levels as the chain leaves. -/
theorem keeps_visit (hd : dispatch.LeavesGuards) {levels : Nat}
    (hlevels : levels + chain.length = limits.maxDepth + 1) (x : Execution) :
    Keeps limits chain chain chain
      (visit dispatch limits (Session.fetch source limits watching) levels x) := by
  induction levels generalizing chain x with
  | zero =>
    rw [visit]
    refine keeps_guarded fun hpermits => ?_
    have := hpermits.1
    omega
  | succ levels ih =>
    rw [visit]
    refine keeps_guarded fun hpermits => keeps_leaving (keeps_bind (keeps_entering hpermits) ?_)
    refine fun events => keeps_bind (keeps_below ?_) fun p => keeps_pure _
    refine keeps_applyAll hd (fun c => ih ?_ c) events _
    rw [List.length_cons]
    omega

end Walk

/-! ## Whole runs -/

/-- What a run from a session on shows of the guards: they see the open calls, and nothing of
what was projected before. -/
structure GuardsSeeOpenCalls {σ : Type} (limits : Limits) (s : Session σ)
    (r : EStateM.Result Halt (Course σ) TaskGroup) : Prop where
  /-- At every call and at every return the ancestors are the executions of the open calls, and a
  call is refused exactly if the guards refuse its execution below these. -/
  fits : ∀ before m after, (stateAfter r).calls = before ++ m :: after →
    m.Fits limits (openAfter [] before)
  /-- A call that returns was entered with the same ancestors, and was open in between. -/
  restored : ∀ before y ancestors after,
    (stateAfter r).calls = before ++ .left y ancestors :: after →
    ∃ earlier inner, before = earlier ++ .entered y ancestors :: inner ∧
      ∀ part, part <+: inner →
        y :: ancestors <:+ openAfter [] (earlier ++ .entered y ancestors :: part)
  /-- When the run returns, no call is open and the list is empty. -/
  settled : returns r = true →
    (stateAfter r).ancestors = [] ∧ openAfter [] (stateAfter r).calls = []
  /-- Histories are asked for by the calls that are entered, once by each, and by no others. -/
  fetched : (stateAfter r).session.fetched
    = s.fetched ++ (stateAfter r).calls.filterMap Moment.entered?
  /-- A run that fails for a cycle or for the nesting does so because the guards refused the
  execution that the failure names: too many calls were open, or else the execution itself
  was. -/
  refused : ∀ cause w, r = .error (.failed cause) w → cause.isGuard = true →
    ∃ before y after, w.calls = before ++ .refused y (openAfter [] before) cause :: after ∧
      (∀ m ∈ after, m.isLeft = true) ∧
      ((limits.maxDepth < (openAfter [] before).length ∧ cause = .tooDeep y limits.maxDepth) ∨
        ((openAfter [] before).length ≤ limits.maxDepth ∧ limits.detectCycles = true ∧
          y ∈ openAfter [] before ∧ cause = .cycle y))

/-- A record that begins with no open call says that every guard saw the calls that were open. -/
theorem Passage.guardsSeeOpenCalls {σ : Type} {limits : Limits} {s : Session σ}
    {r : EStateM.Result Halt (Course σ) TaskGroup} {log : List Moment}
    (h : Passage limits [] [] (.start s) r log) : GuardsSeeOpenCalls limits s r := by
  have hcalls : (stateAfter r).calls = log := h.calls
  refine ⟨?_, ?_, ?_, ?_, ?_⟩
  · rintro before m after hsplit
    have horderly := h.orderly
    rw [← hcalls, hsplit, orderly_append] at horderly
    exact horderly.2.1
  · intro before y ancestors after hsplit
    have horderly := h.orderly
    rw [← hcalls, hsplit, orderly_append] at horderly
    have hopen : openAfter [] before = [] ++ y :: ancestors := horderly.2.1.symm
    exact horderly.1.exists_entered hopen
  · rw [hcalls]
    exact h.returned
  · rw [hcalls]
    exact h.fetched
  · rintro cause w rfl hguard
    obtain ⟨before, y, ancestors, after, rfl, hafter⟩ := h.refused cause w rfl hguard
    obtain ⟨rfl, hrefusal⟩ := (orderly_append.1 h.orderly).2.1
    exact ⟨before, y, after, hcalls, hafter, Limits.refusal?_eq_some_iff.1 hrefusal⟩

namespace Session

variable {σ : Type} {dispatch : Dispatch σ}

/-- Whatever the handlers do, as long as they leave cycles and nesting to the guards, these see
the open calls in every run along a shared list of ancestors; with the handlers of a registry, the
run leads to what the expansion leads to. -/
theorem guards_see_open_calls (source : Source σ) (hd : dispatch.LeavesGuards) (limits : Limits)
    (watching : Bool) (x : Execution) (s : Session σ) :
    (∀ registry : Registry, dispatch = registry.dispatcher →
      Walk.forget (Walk.run source dispatch limits watching x s)
        = Expansion.project registry limits (fetch source limits watching) x s) ∧
    GuardsSeeOpenCalls limits s (Walk.run source dispatch limits watching x s) := by
  constructor
  · rintro registry rfl
    exact (Walk.erases_visit rfl x (.start s) rfl).1
  · obtain ⟨log, hlog⟩ := Walk.keeps_visit hd rfl x (.start s) rfl
    exact hlog.guardsSeeOpenCalls

end Session

namespace Memory

/-- The history of a tour that takes the same ferry twice. -/
def tour : Memory :=
  (empty.insert ⟨"ferry", "1"⟩ [.of ⟨1⟩ (.activityScheduled "acme.Sail")]).insert ⟨"tour", "1"⟩
    [.of ⟨1⟩ (.childInitiated "acme.Ferry"), .of ⟨2⟩ (.childStarted ⟨1⟩ ⟨"ferry", "1"⟩),
      .of ⟨3⟩ (.childInitiated "acme.Ferry"), .of ⟨4⟩ (.childStarted ⟨3⟩ ⟨"ferry", "1"⟩)]

/-- The tour enters the ferry twice, one call after the other; below each other they would be
refused. -/
theorem tour_enters_ferry_twice :
    (stateAfter (Walk.run fetch Registry.standard.dispatcher {} false ⟨"tour", "1"⟩
        (.start tour))).calls
      = [.entered ⟨"tour", "1"⟩ [],
        .entered ⟨"ferry", "1"⟩ [⟨"tour", "1"⟩], .left ⟨"ferry", "1"⟩ [⟨"tour", "1"⟩],
        .entered ⟨"ferry", "1"⟩ [⟨"tour", "1"⟩], .left ⟨"ferry", "1"⟩ [⟨"tour", "1"⟩],
        .left ⟨"tour", "1"⟩ []] ∧
      (∀ registry : Registry,
        (Registry.standard.dispatcher : Dispatch Memory) = registry.dispatcher →
        Walk.forget (Walk.run fetch Registry.standard.dispatcher {} false ⟨"tour", "1"⟩
            (.start tour))
          = Expansion.project registry {} (Session.fetch fetch {} false) ⟨"tour", "1"⟩
              (.start tour)) ∧
      GuardsSeeOpenCalls {} (.start tour) (Walk.run fetch Registry.standard.dispatcher {} false
        ⟨"tour", "1"⟩ (.start tour)) := by
  refine ⟨?_, ?_⟩
  · decide +kernel
  · exact Session.guards_see_open_calls fetch Registry.standard_leavesGuards.dispatcher {} false
      ⟨"tour", "1"⟩ (.start tour)

end Memory

end HistoryTree
