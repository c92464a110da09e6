import HistoryTree.Proofs.History.Coherence
import HistoryTree.Proofs.Projection.Consistency

/-!
# What one operation changes

An `Operation` is one way to change a projection: a standard handler that is given an event, of its
own type or of another one, or one of the steps from which the handlers are made.  What can come of
it is a refusal, which leaves the projection as it was, or an `Effect` on one thing at most
(`Operation.result`).  What all effects keep follows from that (`Operation.Effect.prefix_tasks`,
`Operation.Effect.closed_task`).  Main statement: `Projection.operations_change_one_thing`.
-/

namespace HistoryTree

open Projection

/-- The projection that a step leaves behind, whether it succeeds or fails. -/
def Step.after {α : Type} (step : Step α) (p : Projection) : Projection :=
  match step p with
  | .ok _ q => q
  | .error _ q => q

theorem Step.after_of_ok {α : Type} {step : Step α} {a : α} {p q : Projection}
    (h : step p = .ok a q) : step.after p = q := by
  rw [after, h]

theorem Step.after_of_error {α : Type} {step : Step α} {cause : ProjectionError}
    {p q : Projection} (h : step p = .error cause q) : step.after p = q := by
  rw [after, h]

/-- A task in the place of another that is like it. -/
theorem Projection.map_tasks_setTask {β : Type} {p : Projection} {slot : Nat} {t u : Task}
    (f : Task → β) (ht : p.group.tasks[slot]? = some t) (hu : f u = f t) :
    (p.setTask slot u).group.tasks.map f = p.group.tasks.map f := by
  have hset : (p.setTask slot u).group.tasks = p.group.tasks.set slot u := rfl
  rw [hset, List.map_set, hu]
  refine List.ext_getElem? fun i => ?_
  by_cases hi : slot = i
  · subst hi
    simp [ht, List.getElem?_set_self']
  · rw [List.getElem?_set_ne hi]

/-- One way to change a projection. -/
inductive Operation where
  /-- The handler for events of one type is given an event, of this type or of another one. -/
  | handle (type : EventType) (handler : Handler)
      (standard : type.standardHandler? = some handler) (e : HistoryEvent)
  | create (event : EventId) (t : Task)
  | advance (event task : EventId) (next : TaskStatus)
  | setStatus (event : EventId) (next : GroupStatus)
  | attach (event task : EventId) (subTasks : List Task)

namespace Operation

/-- Makes an operation. -/
def step : Operation → Step Outcome
  | handle _ handler _ e => handler e
  | create event t => do
    Projection.create event t
    return .applied
  | advance event task next => do
    Projection.advance event task next
    return .applied
  | setStatus event next => do
    Projection.setStatus event next
    return .applied
  | attach event task subTasks => do
    Projection.attach event task subTasks
    return .applied

/-- The projection that an operation leaves behind. -/
def after (op : Operation) (p : Projection) : Projection := op.step.after p

/-- The event on whose behalf an operation is made. -/
def event : Operation → EventId
  | handle _ _ _ e => e.id
  | create event _ | advance event _ _ | setStatus event _ | attach event _ _ => event

/-- The id of the task that an operation is to create. -/
def creates? : Operation → Option EventId
  | handle type _ _ e => if e.type = type then e.created?.map (·.id) else none
  | create _ t => some t.id
  | advance .. | setStatus .. | attach .. => none

/-- The id of the task that an operation refers to. -/
def reference? : Operation → Option EventId
  | handle _ _ _ e => e.kind.reference?
  | advance _ task _ | attach _ task _ => some task
  | create .. | setStatus .. => none

/-- What an operation that succeeds does: it changes nothing, or one thing.  A task that is changed
is the one that is referred to; only the operation for it attaches sub-tasks. -/
inductive Effect (op : Operation) (p : Projection) : Projection → Prop
  | nothing : op.creates? = none → Effect op p p
  | appends (t : Task) : op.creates? = some t.id → p.slot? t.id = none → Effect op p (p.push t)
  | moves {task : EventId} {slot : Nat} {t : Task} (next : TaskStatus) : op.creates? = none →
      op.reference? = some task → p.resolve? task = some (slot, t) → t.isTerminal = false →
      Effect op p (p.setTask slot { t with status := next })
  | attaches {event task : EventId} {slot : Nat} {t : Task} {subTasks : List Task} :
      op = .attach event task subTasks → p.resolve? task = some (slot, t) → t.subTasks = none →
      Effect op p (p.setTask slot { t with subTasks := some subTasks })
  | movesGroup (next : GroupStatus) : op.creates? = none → p.group.status.isTerminal = false →
      Effect op p (p.withStatus next)

/-- What can come of an operation: it is refused and nothing is changed, or it has an effect.  It is
refused for a task that is there already just where it would create that task. -/
inductive Result (op : Operation) (p : Projection) :
    EStateM.Result ProjectionError Projection Outcome → Prop
  | refused (cause : ProjectionError) :
      (∀ event id, cause = .duplicateTask event id ↔
        op.event = event ∧ op.creates? = some id ∧ ∃ slot, p.slot? id = some slot) →
      Result op p (.error cause p)
  | done (outcome : Outcome) {q : Projection} : Effect op p q → Result op p (.ok outcome q)

/-! ## What each step comes to -/

variable {op : Operation} {p q : Projection} {cause : ProjectionError} {outcome : Outcome}
  {event task id : EventId} {slot : Nat} {t u : Task}

theorem Result.refused_of_not_creates (hop : op.creates? = none)
    (hcause : ∀ event id, cause ≠ .duplicateTask event id) : op.Result p (.error cause p) :=
  .refused cause fun event id => by simp [hcause event id, hop]

/-- A task that is to be created is appended, unless its id is taken. -/
theorem Result.of_creates (hevent : op.event = event) (hop : op.creates? = some t.id)
    (hnew : p.slot? t.id = none → op.step p = .ok .applied (p.push t))
    (htaken : ∀ slot, p.slot? t.id = some slot →
      op.step p = .error (.duplicateTask event t.id) p) : op.Result p (op.step p) := by
  cases hslot : p.slot? t.id with
  | none =>
    rw [hnew hslot]
    exact .done _ (.appends t hop hslot)
  | some slot =>
    rw [htaken slot hslot]
    refine .refused _ fun event' id => ?_
    rw [hevent, hop]
    constructor
    · intro h
      cases h
      exact ⟨rfl, rfl, slot, hslot⟩
    · rintro ⟨rfl, hid, -⟩
      rw [Option.some.inj hid]

theorem Result.of_create (hevent : op.event = event) (hop : op.creates? = some t.id)
    (hstep : op.step = (do Projection.create event t; return .applied)) :
    op.Result p (op.step p) := by
  refine .of_creates hevent hop (fun hslot => ?_) fun slot hslot => ?_
  · rw [hstep, Step.bind_of_ok (create_eq_ok_iff.2 ⟨hslot, rfl⟩)]
    rfl
  · rw [hstep, Step.bind_of_error (create_eq_error_iff.2 ⟨⟨slot, hslot⟩, rfl, rfl⟩)]

/-- A timer is appended waiting and moved at once, which cannot fail. -/
theorem Result.of_startTimer {name : String} (hevent : op.event = id) (hop : op.creates? = some id)
    (hstep : op.step = (do
      Projection.create id (.scheduled id name)
      Projection.advance id id .running
      return .applied)) : op.Result p (op.step p) := by
  refine .of_creates (t := ⟨id, name, .running, none⟩) hevent hop (fun hslot => ?_)
    fun slot hslot => ?_
  · have hcreate : Projection.create id (.scheduled id name) p
        = .ok () (p.push (.scheduled id name)) := create_eq_ok_iff.2 ⟨hslot, rfl⟩
    rw [hstep, Step.bind_of_ok hcreate, Step.bind_of_ok (advance_of_create hcreate)]
    rfl
  · have hcreate : Projection.create id (.scheduled id name) p = .error (.duplicateTask id id) p :=
      create_eq_error_iff.2 ⟨⟨slot, hslot⟩, rfl, rfl⟩
    rw [hstep, Step.bind_of_error hcreate]

theorem of_advance_ok {next : TaskStatus} (h : t.advance next = .ok u) :
    t.isTerminal = false ∧ u = { t with status := next } := by
  rw [Task.advance, TaskStatus.moveTo] at h
  by_cases hmove : t.status.canMoveTo next = true
  · rw [if_pos hmove] at h
    cases h
    refine ⟨Bool.eq_false_iff.2 fun hclosed => ?_, rfl⟩
    rw [TaskStatus.not_canMoveTo_of_isTerminal hclosed next] at hmove
    cases hmove
  · rw [if_neg hmove] at h
    cases h

/-- A change of one task is refused for the task, or for what it refers to. -/
theorem Result.of_update {change : Task → Except Violation Task} (hop : op.creates? = none)
    (hstep : op.step = (do Projection.update event task change; return .applied))
    (heffect : ∀ slot t t', p.resolve? task = some (slot, t) → change t = .ok t' →
      op.Effect p (p.setTask slot t')) : op.Result p (op.step p) := by
  rw [hstep]
  cases hupdate : Projection.update event task change p with
  | ok a q =>
    obtain ⟨slot, t, t', hfound, hchange, rfl⟩ := update_eq_ok_iff.1 hupdate
    rw [Step.bind_of_ok hupdate]
    exact .done _ (heffect slot t t' hfound hchange)
  | error cause q =>
    rw [Step.bind_of_error hupdate]
    obtain ⟨rfl, ⟨-, rfl⟩ | ⟨slot, t, v, -, -, rfl⟩⟩ := update_eq_error_iff.1 hupdate
    · exact .refused_of_not_creates hop (by simp)
    · exact .refused_of_not_creates hop (by simp)

theorem Result.of_advance {next : TaskStatus} (hop : op.creates? = none)
    (href : op.reference? = some task)
    (hstep : op.step = (do Projection.advance event task next; return .applied)) :
    op.Result p (op.step p) := by
  refine .of_update hop hstep fun slot t t' hfound hadvance => ?_
  obtain ⟨hopen, rfl⟩ := of_advance_ok hadvance
  exact .moves next hop href hfound hopen

theorem Result.of_attach {subTasks : List Task} :
    (attach event task subTasks).Result p ((attach event task subTasks).step p) := by
  refine .of_update rfl rfl fun slot t t' hfound hattach => ?_
  rw [Task.attach] at hattach
  split at hattach
  · cases hattach
  · rename_i hnone
    cases hattach
    exact .attaches rfl hfound hnone

theorem Result.of_setStatus {next : GroupStatus} (hop : op.creates? = none)
    (hstep : op.step = (do Projection.setStatus event next; return .applied)) :
    op.Result p (op.step p) := by
  rw [hstep]
  by_cases hmove : p.group.status.canMoveTo next = true
  · have hset : Projection.setStatus event next p = .ok () (p.withStatus next) := by
      rw [Projection.setStatus, GroupStatus.moveTo, if_pos hmove]
    have hopen : p.group.status.isTerminal = false := by
      rw [GroupStatus.canMoveTo_iff.1 hmove]
      rfl
    rw [Step.bind_of_ok hset]
    exact .done _ (.movesGroup next hop hopen)
  · have hset : Projection.setStatus event next p
        = .error (.violation event (.groupMove p.group.status next)) p := by
      rw [Projection.setStatus, GroupStatus.moveTo, if_neg hmove]
    rw [Step.bind_of_error hset]
    exact .refused_of_not_creates hop (by simp)

/-- The start of a child execution is only checked. -/
theorem starts_cases {child : Execution}
    (hstep : op.step = (do
      let (_, t) ← find event task
      match Rule.checkChildStart t with
      | .error v => throw (.violation event v)
      | .ok () => return .expandChild task child)) :
    (∃ outcome, op.step p = .ok outcome p) ∨
      ∃ cause, op.step p = .error cause p ∧ ∀ event id, cause ≠ .duplicateTask event id := by
  rw [hstep]
  cases hfound : p.resolve? task with
  | none =>
    have hfind : find event task p = .error (.unknownReference event task) p := by
      rw [find, hfound]
    exact .inr ⟨_, Step.bind_of_error hfind, by simp⟩
  | some found =>
    obtain ⟨slot, t⟩ := found
    have hfind : find event task p = .ok (slot, t) p := by
      rw [find, hfound]
    rw [Step.bind_of_ok hfind]
    cases hcheck : Rule.checkChildStart t with
    | error v => exact .inr ⟨.violation event v, by simp only [hcheck]; rfl, by simp⟩
    | ok _ => exact .inl ⟨.expandChild task child, by simp only [hcheck]; rfl⟩

theorem Result.of_starts {child : Execution} (hop : op.creates? = none)
    (hstep : op.step = (do
      let (_, t) ← find event task
      match Rule.checkChildStart t with
      | .error v => throw (.violation event v)
      | .ok () => return .expandChild task child)) : op.Result p (op.step p) := by
  rcases starts_cases hstep with ⟨outcome, h⟩ | ⟨cause, h, hcause⟩
  · rw [h]
    exact .done _ (.nothing hop)
  · rw [h]
    exact .refused_of_not_creates hop hcause

/-! ## Handlers -/

section Handlers

variable {type : EventType} {handler : Handler} {e : HistoryEvent}

/-- Given an event of its own type, a handler does what the standard registry does. -/
theorem handler_eq_dispatch (hstandard : type.standardHandler? = some handler)
    (htype : e.type = type) : handler e = Registry.standard.dispatch e := by
  have hhandler : Registry.standard.handler? e.type = some handler := by
    rw [htype]
    exact hstandard
  rw [Registry.dispatch, hhandler]

/-- An event of another type is refused. -/
theorem handler_of_ne (hstandard : type.standardHandler? = some handler) (htype : e.type ≠ type) :
    handler e p = .error (.unexpectedEvent e.id type) p := by
  obtain ⟨rule, -, rfl⟩ := Option.map_eq_some_iff.1 hstandard
  rw [Rule.handler, if_neg htype]
  rfl

theorem result_of_handle (hstandard : type.standardHandler? = some handler) (p : Projection) :
    (handle type handler hstandard e).Result p (handler e p) := by
  by_cases htype : e.type = type
  · have hstep : (handle type handler hstandard e).step = Registry.standard.dispatch e :=
      handler_eq_dispatch hstandard htype
    have hcreates : (handle type handler hstandard e).creates? = e.created?.map (·.id) :=
      if_pos htype
    show (handle type handler hstandard e).Result p ((handle type handler hstandard e).step p)
    cases hm : e.meaning with
    | creates t =>
      have hid := (HistoryEvent.of_meaning_creates hm).1
      rw [HistoryEvent.created?_eq_some_iff.2 hm, Option.map_some] at hcreates
      rcases Registry.dispatch_creates_eq hm with heq | ⟨-, heq⟩
      · exact .of_create rfl hcreates (hstep.trans heq)
      · rw [hid] at hcreates
        exact .of_startTimer rfl hcreates (hstep.trans heq)
    | moves task next =>
      rw [HistoryEvent.created?, hm] at hcreates
      have href : e.kind.reference? = some task := by
        rw [e.reference?_eq, hm]
        rfl
      exact .of_advance hcreates href (hstep.trans (Registry.dispatch_moves_eq hm))
    | starts task child =>
      rw [HistoryEvent.created?, hm] at hcreates
      exact .of_starts hcreates (hstep.trans (Registry.dispatch_starts_eq hm))
    | movesGroup next =>
      rw [HistoryEvent.created?, hm] at hcreates
      exact .of_setStatus hcreates (hstep.trans (Registry.dispatch_movesGroup_eq hm))
    | nothing =>
      rw [HistoryEvent.created?, hm] at hcreates
      rw [hstep, Registry.dispatch_nothing hm]
      exact .done _ (.nothing hcreates)
  · rw [handler_of_ne hstandard htype]
    exact .refused_of_not_creates (if_neg htype) (by simp)

end Handlers

/-! ## All operations -/

theorem result (op : Operation) (p : Projection) : op.Result p (op.step p) := by
  cases op with
  | handle type handler standard e => exact result_of_handle standard p
  | create event t => exact .of_create rfl rfl rfl
  | advance event task next => exact .of_advance rfl rfl rfl
  | setStatus event next => exact .of_setStatus rfl rfl
  | attach event task subTasks => exact .of_attach

theorem unchanged_of_error (h : op.step p = .error cause q) : q = p := by
  have hresult := op.result p
  rw [h] at hresult
  cases hresult
  rfl

theorem effect_of_ok (h : op.step p = .ok outcome q) : op.Effect p q := by
  have hresult := op.result p
  rw [h] at hresult
  cases hresult with
  | done _ heffect => exact heffect

/-- Whatever comes of an operation, it leaves the projection as it was, or has an effect on it. -/
theorem after_cases (op : Operation) (p : Projection) :
    op.after p = p ∨ op.Effect p (op.after p) := by
  cases h : op.step p with
  | ok outcome q =>
    rw [after, Step.after_of_ok h]
    exact .inr (effect_of_ok h)
  | error cause q =>
    rw [after, Step.after_of_error h]
    exact .inl (unchanged_of_error h)

/-- A task that is there already is reported by an operation that would create it, and by no
other. -/
theorem duplicate_iff : (∃ q, op.step p = .error (.duplicateTask event id) q) ↔
    op.event = event ∧ op.creates? = some id ∧ ∃ slot, p.slot? id = some slot := by
  have hresult := op.result p
  constructor
  · rintro ⟨q, h⟩
    rw [h] at hresult
    cases hresult with
    | refused _ hcause => exact (hcause event id).1 rfl
  · intro h
    cases hstep : op.step p with
    | error cause q =>
      rw [hstep] at hresult
      cases hresult with
      | refused _ hcause => exact ⟨p, by rw [(hcause event id).2 h]⟩
    | ok outcome q =>
      -- the operation that creates a task only succeeds where its id is not taken
      obtain ⟨-, hop, slot, hslot⟩ := h
      rcases effect_of_ok hstep with hnone | ⟨t, hcreates, hnew⟩ | ⟨_, hnone⟩ | ⟨rfl⟩ | ⟨_, hnone⟩
      · rw [hnone] at hop
        cases hop
      · rw [hcreates] at hop
        rw [Option.some.inj hop, hslot] at hnew
        cases hnew
      · rw [hnone] at hop
        cases hop
      · cases hop
      · rw [hnone] at hop
        cases hop

/-! ## What every effect keeps -/

namespace Effect

theorem execution_eq (h : op.Effect p q) : q.group.execution = p.group.execution := by
  cases h <;> rfl

/-- The tasks that are there keep their places, their ids and their names. -/
theorem prefix_tasks (h : op.Effect p q) :
    p.group.tasks.map (fun t => (t.id, t.name)) <+: q.group.tasks.map fun t => (t.id, t.name) := by
  cases h with
  | nothing => exact List.prefix_refl _
  | appends t => exact ⟨[(t.id, t.name)], by simp [push]⟩
  | @moves _ slot t next hop _ hfound hopen =>
    have hkept := map_tasks_setTask (u := { t with status := next })
      (fun t => (t.id, t.name)) (resolve?_iff.1 hfound).2 rfl
    exact hkept ▸ List.prefix_refl _
  | @attaches _ _ slot t subTasks hop hfound hnone =>
    have hkept := map_tasks_setTask (u := { t with subTasks := some subTasks })
      (fun t => (t.id, t.name)) (resolve?_iff.1 hfound).2 rfl
    exact hkept ▸ List.prefix_refl _
  | movesGroup => exact List.prefix_refl _

/-- Only sub-tasks can be attached to a task that is closed; nothing else happens to it. -/
theorem closed_task (h : op.Effect p q)
    (hop : ∀ event task subTasks, op ≠ .attach event task subTasks)
    (ht : p.group.tasks[slot]? = some t) (hclosed : t.isTerminal = true) :
    q.group.tasks[slot]? = some t := by
  cases h with
  | nothing => exact ht
  | appends u => exact (List.getElem?_append_left (List.getElem?_eq_some_iff.1 ht).1).trans ht
  | @moves _ slot' u next hcreates _ hfound hopen =>
    have hne : slot' ≠ slot := by
      rintro rfl
      have hu := (resolve?_iff.1 hfound).2
      rw [ht] at hu
      rw [← Option.some.inj hu, hclosed] at hopen
      cases hopen
    exact (List.getElem?_set_ne hne).trans ht
  | attaches hattach => exact absurd hattach (hop _ _ _)
  | movesGroup => exact ht

theorem closed_group (h : op.Effect p q) (hclosed : p.group.status.isTerminal = true) :
    q.group.status = p.group.status := by
  cases h with
  | movesGroup next hcreates hopen =>
    rw [hclosed] at hopen
    cases hopen
  | _ => rfl

end Effect

theorem execution_after (op : Operation) (p : Projection) :
    (op.after p).group.execution = p.group.execution := by
  rcases op.after_cases p with h | h
  · rw [h]
  · exact h.execution_eq

theorem prefix_after (op : Operation) (p : Projection) :
    p.group.tasks.map (fun t => (t.id, t.name))
      <+: (op.after p).group.tasks.map fun t => (t.id, t.name) := by
  rcases op.after_cases p with h | h
  · exact h.symm ▸ List.prefix_refl _
  · exact h.prefix_tasks

/-! ## What handlers keep -/

section Handlers

variable {type : EventType} {handler : Handler} {e : HistoryEvent}

theorem closed_task_of_handle (hstandard : type.standardHandler? = some handler)
    (ht : p.group.tasks[slot]? = some t) (hclosed : t.isTerminal = true) :
    ((handle type handler hstandard e).after p).group.tasks[slot]? = some t := by
  rcases (handle type handler hstandard e).after_cases p with h | h
  · rw [h, ht]
  · exact h.closed_task (by simp) ht hclosed

theorem closed_group_of_handle (hstandard : type.standardHandler? = some handler)
    (hclosed : p.group.status.isTerminal = true) :
    ((handle type handler hstandard e).after p).group.status = p.group.status := by
  rcases (handle type handler hstandard e).after_cases p with h | h
  · rw [h]
  · exact h.closed_group hclosed

/-- The handler for the start of a child execution only looks. -/
theorem after_childStarted (hstandard : EventType.childStarted.standardHandler? = some handler) :
    (handle .childStarted handler hstandard e).after p = p := by
  have hlooks : (∃ outcome, handler e p = .ok outcome p) ∨
      ∃ cause, handler e p = .error cause p := by
    by_cases htype : e.type = .childStarted
    · obtain ⟨task, child, hkind⟩ : ∃ task child, e.kind = .childStarted task child := by
        obtain ⟨_, _, kind⟩ := e
        cases kind <;> first | exact ⟨_, _, rfl⟩ | cases htype
      have hm : e.meaning = .starts task child := HistoryEvent.meaning_eq_starts_iff.2 hkind
      have hstep : (handle .childStarted handler hstandard e).step = Registry.standard.dispatch e :=
        handler_eq_dispatch hstandard htype
      rcases starts_cases (hstep.trans (Registry.dispatch_starts_eq hm)) with
        hok | ⟨cause, herror, -⟩
      · exact .inl hok
      · exact .inr ⟨cause, herror⟩
    · exact .inr ⟨_, handler_of_ne hstandard htype⟩
  rcases hlooks with ⟨outcome, h⟩ | ⟨cause, h⟩
  · exact Step.after_of_ok h
  · exact Step.after_of_error h

end Handlers

end Operation

/-- An operation on a projection fails and leaves it as it was, or succeeds and changes one thing at
most: it appends a task, moves a task, attaches sub-tasks where there were none, or moves the
execution.  Whichever it is, the tasks that are there keep their places, their ids and their names,
and the execution is the same.  The handlers change no task that is closed and no execution that
has closed, and the one for the start of a child execution changes nothing. -/
theorem Projection.operations_change_one_thing (p : Projection) :
    (∀ op : Operation,
      (∀ cause q, op.step p = .error cause q → q = p) ∧
      (∀ outcome q, op.step p = .ok outcome q → op.Effect p q) ∧
      p.group.tasks.map (fun t => (t.id, t.name))
        <+: (op.after p).group.tasks.map (fun t => (t.id, t.name)) ∧
      (op.after p).group.execution = p.group.execution) ∧
    ∀ (type : EventType) handler (standard : type.standardHandler? = some handler) e,
      let q : Projection := (Operation.handle type handler standard e).after p
      (∀ (slot : Nat) t, p.group.tasks[slot]? = some t → t.isTerminal = true →
        q.group.tasks[slot]? = some t) ∧
      (p.group.status.isTerminal = true → q.group.status = p.group.status) ∧
      (type = .childStarted → q = p) := by
  constructor
  · intro op
    exact ⟨fun _ _ => op.unchanged_of_error, fun _ _ => op.effect_of_ok, op.prefix_after p,
      op.execution_after p⟩
  · intro type handler standard e
    refine ⟨fun _ _ => Operation.closed_task_of_handle standard,
      Operation.closed_group_of_handle standard, ?_⟩
    rintro rfl
    exact Operation.after_childStarted standard

/-- A task that has ended is not started again; a timer comes behind it. -/
theorem Projection.ended_task_kept :
    let p := (start ⟨"order", "r1"⟩).push ⟨⟨2⟩, "Pay", .completed, none⟩
    let restart := Operation.handle .activityStarted _ rfl (.of ⟨3⟩ (.activityStarted ⟨2⟩))
    let timer := Operation.handle .timerStarted _ rfl (.of ⟨4⟩ (.timerStarted none))
    (∃ cause, restart.step p = .error cause p) ∧
      (timer.after p).group.tasks[0]? = some ⟨⟨2⟩, "Pay", .completed, none⟩ ∧
      timer.Effect p (p.push ⟨⟨4⟩, timerLabel, .running, none⟩) := by
  intro p restart timer
  obtain ⟨hall, hhandlers⟩ := operations_change_one_thing p
  refine ⟨?_, (hhandlers .timerStarted _ rfl _).1 0 _ rfl rfl, (hall timer).2.1 .applied _ rfl⟩
  have hrestart : restart.step p
      = .error (.violation ⟨3⟩ (.taskMove .completed .running)) (restart.after p) := rfl
  exact ⟨_, hrestart.trans (by rw [(hall restart).1 _ _ hrestart])⟩

end HistoryTree
