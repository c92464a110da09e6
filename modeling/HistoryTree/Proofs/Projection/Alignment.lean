import HistoryTree.Proofs.Projection.Operations

/-!
# The index follows the tasks

A projection is put through actions, one after the other, whether they succeed or fail: operations,
and hanging the tasks of a child below a task, which is two operations in a row
(`Action.step_attachChild`).  A projection is `Aligned` with a list of ids if its tasks have these
ids, in this order, and its index leads to them.  An effect of an operation appends the id that was
to be created, and keeps the rest (`Operation.Effect.aligned`); from there it is one induction to a
whole sequence of actions (`Projection.Aligned.afterAll`), after which the tasks are those of the
creations that succeeded.  Main statement: `Projection.index_follows_tasks`.
-/

namespace HistoryTree

open Projection

/-- What can be asked of a projection. -/
inductive Action where
  | make (op : Operation)
  /-- The tasks of a child execution are hung below a task, which runs then. -/
  | attachChild (event task : EventId) (child : TaskGroup)

namespace Action

/-- Does what is asked. -/
def step : Action → Step Outcome
  | make op => op.step
  | attachChild event task child => do
    Projection.attachChild event task child
    return .applied

/-- The event on whose behalf an action is asked for. -/
def event : Action → EventId
  | make op => op.event
  | attachChild event _ _ => event

/-- The id of the task that an action is to create. -/
def creates? : Action → Option EventId
  | make op => op.creates?
  | attachChild .. => none

/-- The id of the task that an action creates, if it succeeds. -/
def creation? (a : Action) (p : Projection) : Option EventId :=
  match a.step p with
  | .ok _ _ => a.creates?
  | .error _ _ => none

end Action

namespace Projection

/-- The projection after a sequence of actions, of which any may fail. -/
def afterAll (p : Projection) (actions : List Action) : Projection :=
  actions.foldl (fun p a => a.step.after p) p

/-- The ids of the tasks that are created in a sequence of actions, in this order. -/
def creations : Projection → List Action → List EventId
  | _, [] => []
  | p, a :: rest => (a.creation? p).toList ++ creations (a.step.after p) rest

/-- The index leads to the tasks, which have the given ids, in this order. -/
structure Aligned (p : Projection) (ids : List EventId) : Prop where
  wellIndexed : p.WellIndexed
  ids_eq : p.group.tasks.map (·.id) = ids

variable {p q : Projection} {ids : List EventId} {id : EventId} {slot : Nat} {t : Task}

/-! ## What it says -/

/-- The tasks of a projection with a correct index have different ids. -/
theorem WellIndexed.nodup (hp : p.WellIndexed) : (p.group.tasks.map (·.id)).Nodup := by
  rw [List.nodup_iff_getElem?_ne_getElem?]
  intro i j hij hj heq
  rw [List.length_map] at hj
  have hi : i < p.group.tasks.length := Nat.lt_trans hij hj
  rw [List.getElem?_map, List.getElem?_map, List.getElem?_eq_getElem hi,
    List.getElem?_eq_getElem hj] at heq
  have hsame : i = j := hp.slot_unique (List.getElem?_eq_getElem hi) (List.getElem?_eq_getElem hj)
    (Option.some.inj heq)
  omega

theorem WellIndexed.task?_of_slot?_none (hp : p.WellIndexed) (h : p.slot? id = none) :
    p.group.task? id = none := by
  cases htask : p.group.task? id with
  | none => rfl
  | some t =>
    obtain ⟨slot, hfound⟩ := hp.resolve?_of_some htask
    rw [(resolve?_iff.1 hfound).1] at h
    cases h

/-- The index has an entry exactly for the ids of the tasks that were created. -/
theorem Aligned.slot?_iff_mem (hp : p.Aligned ids) :
    (∃ slot, p.slot? id = some slot) ↔ id ∈ ids := by
  rw [← hp.ids_eq, List.mem_map]
  constructor
  · rintro ⟨slot, hslot⟩
    obtain ⟨t, ht, hid⟩ := (hp.wellIndexed id slot).1 hslot
    exact ⟨t, List.mem_of_getElem? ht, hid⟩
  · rintro ⟨t, ht, hid⟩
    obtain ⟨slot, hslot⟩ := List.getElem?_of_mem ht
    exact ⟨slot, (hp.wellIndexed id slot).2 ⟨t, hslot, hid⟩⟩

/-- Looking an event up through the index and looking through the tasks comes to the same. -/
theorem WellIndexed.find_eq (hp : p.WellIndexed) (event id : EventId) :
    (∀ t, p.group.task? id = some t →
      ∃ slot, p.group.tasks[slot]? = some t ∧ find event id p = .ok (slot, t) p) ∧
    (p.group.task? id = none → find event id p = .error (.unknownReference event id) p) := by
  refine ⟨fun t htask => ?_, fun htask => hp.find_of_none htask⟩
  obtain ⟨slot, hfound⟩ := hp.resolve?_of_some htask
  exact ⟨slot, (resolve?_iff.1 hfound).2, by rw [find, hfound]⟩

/-! ## What keeps it -/

theorem Aligned.push (hp : p.Aligned ids) (hnew : p.slot? t.id = none) :
    (p.push t).Aligned (ids ++ [t.id]) where
  wellIndexed := hp.wellIndexed.after_push (hp.wellIndexed.task?_of_slot?_none hnew)
  ids_eq := by simp [Projection.push, hp.ids_eq]

theorem Aligned.setTask (hp : p.Aligned ids) (f : Task → Task) (hf : ∀ t, (f t).id = t.id)
    (ht : p.group.tasks[slot]? = some t) : (p.setTask slot (f t)).Aligned ids where
  wellIndexed := by
    rw [hp.wellIndexed.setTask_eq_modify ht]
    exact hp.wellIndexed.after_modify hf
  ids_eq := by rw [map_tasks_setTask _ ht (hf t), hp.ids_eq]

end Projection

/-! ## What one action does to it -/

namespace Operation

variable {op : Operation} {p q : Projection} {ids : List EventId}

/-- What an operation does keeps the index aligned with the tasks. -/
theorem Effect.aligned (h : op.Effect p q) (hp : p.Aligned ids) :
    q.Aligned (ids ++ op.creates?.toList) := by
  cases h with
  | nothing hnone =>
    rw [hnone, Option.toList_none, List.append_nil]
    exact hp
  | appends t hcreates hnew =>
    rw [hcreates]
    exact hp.push hnew
  | @moves _ slot t next hnone _ hfound hopen =>
    have ht := (resolve?_iff.1 hfound).2
    rw [hnone, Option.toList_none, List.append_nil]
    exact hp.setTask (fun t => { t with status := next }) (fun _ => rfl) ht
  | @attaches _ _ slot t subTasks hop hfound _ =>
    have ht := (resolve?_iff.1 hfound).2
    have hnone : op.creates? = none := by rw [hop]; rfl
    rw [hnone, Option.toList_none, List.append_nil]
    exact hp.setTask (fun t => { t with subTasks := some subTasks }) (fun _ => rfl) ht
  | movesGroup next hnone hopen =>
    rw [hnone, Option.toList_none, List.append_nil]
    exact ⟨hp.wellIndexed.after_withStatus next, hp.ids_eq⟩

theorem aligned_after (op : Operation) (hp : p.Aligned ids) :
    (op.after p).Aligned (ids ++ ((Action.make op).creation? p).toList) := by
  rw [after, Action.creation?]
  cases h : op.step p with
  | ok outcome q =>
    have hstep : (Action.make op).step p = .ok outcome q := h
    rw [Step.after_of_ok h, hstep]
    exact (effect_of_ok h).aligned hp
  | error cause q =>
    have hstep : (Action.make op).step p = .error cause q := h
    rw [Step.after_of_error h, hstep, Option.toList_none, List.append_nil, unchanged_of_error h]
    exact hp

end Operation

namespace Action

variable {p : Projection} {ids : List EventId} {event task id : EventId} {child : TaskGroup}

/-- The tasks of a child are attached, and their task is moved then. -/
theorem step_attachChild : (attachChild event task child).step = (do
    let _ ← (Operation.attach event task child.tasks).step
    (Operation.advance event task .running).step) := by
  simp [step, Operation.step, Projection.attachChild]

theorem aligned_attachChild (event task : EventId) (child : TaskGroup) (hp : p.Aligned ids) :
    ((attachChild event task child).step.after p).Aligned ids := by
  rw [step_attachChild]
  cases hattach : (Operation.attach event task child.tasks).step p with
  | error cause q =>
    rw [Step.after_of_error (Step.bind_of_error hattach), Operation.unchanged_of_error hattach]
    exact hp
  | ok outcome q =>
    have hq : q.Aligned ids := by
      have heffect := (Operation.effect_of_ok hattach).aligned hp
      rwa [Operation.creates?, Option.toList_none, List.append_nil] at heffect
    cases hadvance : (Operation.advance event task .running).step q with
    | error cause r =>
      rw [Step.after_of_error ((Step.bind_of_ok hattach).trans hadvance),
        Operation.unchanged_of_error hadvance]
      exact hq
    | ok outcome r =>
      rw [Step.after_of_ok ((Step.bind_of_ok hattach).trans hadvance)]
      have heffect := (Operation.effect_of_ok hadvance).aligned hq
      rwa [Operation.creates?, Option.toList_none, List.append_nil] at heffect

theorem aligned_after (a : Action) (hp : p.Aligned ids) :
    (a.step.after p).Aligned (ids ++ (a.creation? p).toList) := by
  cases a with
  | make op => exact op.aligned_after hp
  | attachChild event task child =>
    have hnone : (attachChild event task child).creation? p = none := by
      rw [creation?]
      split <;> rfl
    rw [hnone, Option.toList_none, List.append_nil]
    exact aligned_attachChild event task child hp

theorem duplicate_iff (a : Action) :
    (∃ q, a.step p = .error (.duplicateTask event id) q) ↔
      a.event = event ∧ a.creates? = some id ∧ ∃ slot, p.slot? id = some slot := by
  cases a with
  | make op => exact Operation.duplicate_iff
  | attachChild event' task child =>
    constructor
    · rintro ⟨q, h⟩
      rw [step_attachChild, Step.bind_eq_error_iff] at h
      rcases h with h | ⟨_, p', -, h⟩
      · cases (Operation.duplicate_iff.1 ⟨q, h⟩).2.1
      · cases (Operation.duplicate_iff.1 ⟨q, h⟩).2.1
    · rintro ⟨-, hnone, -⟩
      cases hnone

end Action

/-! ## Sequences of actions -/

namespace Projection

variable {p : Projection} {ids : List EventId}

theorem aligned_start (x : Execution) : (start x).Aligned [] := ⟨wellIndexed_start x, rfl⟩

/-- The induction is on the actions: each appends the id that it creates, if it creates one. -/
theorem Aligned.afterAll (hp : p.Aligned ids) (actions : List Action) :
    (p.afterAll actions).Aligned (ids ++ p.creations actions) := by
  induction actions generalizing p ids with
  | nil =>
    rw [creations, List.append_nil]
    exact hp
  | cons a rest ih =>
    rw [creations, ← List.append_assoc]
    exact ih (a.aligned_after hp)

/-- Whatever is asked of a projection that began empty, the tasks are those of the creations that
succeeded, in this order, and no two have the same id.  The index leads from the id of each task
to its place, which is a place of a task, and from no other id; looking an event up through it
finds the task that is found among the tasks, and none where there is none.  An action is refused
for a task that is there already exactly if it would create a task that was created before. -/
theorem index_follows_tasks (x : Execution) (actions : List Action) :
    let p := (start x).afterAll actions
    let ids := (start x).creations actions
    p.group.tasks.map (·.id) = ids ∧ ids.Nodup ∧
    (∀ id slot, p.slot? id = some slot ↔ ∃ t, p.group.tasks[slot]? = some t ∧ t.id = id) ∧
    (∀ id slot, p.slot? id = some slot → slot < p.group.tasks.length) ∧
    (∀ event id,
      (∀ t, p.group.task? id = some t →
        ∃ slot, p.group.tasks[slot]? = some t ∧ find event id p = .ok (slot, t) p) ∧
      (p.group.task? id = none → find event id p = .error (.unknownReference event id) p)) ∧
    ∀ (a : Action) event id, (∃ q, a.step p = .error (.duplicateTask event id) q) ↔
      a.event = event ∧ a.creates? = some id ∧ id ∈ ids := by
  intro p ids
  have hp : p.Aligned ids := by
    have hall := (aligned_start x).afterAll actions
    rwa [List.nil_append] at hall
  refine ⟨hp.ids_eq, hp.ids_eq ▸ hp.wellIndexed.nodup, hp.wellIndexed, ?_,
    hp.wellIndexed.find_eq, ?_⟩
  · intro id slot hslot
    obtain ⟨t, ht, -⟩ := (hp.wellIndexed id slot).1 hslot
    exact (List.getElem?_eq_some_iff.1 ht).1
  · intro a event id
    rw [a.duplicate_iff, hp.slot?_iff_mem]

/-- The payment is scheduled, and has its tasks attached; a delivery that is there already is
appended with a made-up id.  What goes wrong in between leaves no trace. -/
theorem index_follows_delivery :
    let actions : List Action := [
      .make (.handle .activityScheduled _ rfl (.of ⟨1⟩ (.activityScheduled "Pay"))),
      .make (.handle .timerStarted _ rfl (.of ⟨2⟩ (.activityScheduled "Ship"))),
      .make (.create ⟨3⟩ (.scheduled ⟨1⟩ "PayAgain")),
      .attachChild ⟨4⟩ ⟨1⟩ ⟨⟨"bank", "r1"⟩, [.scheduled ⟨1⟩ "Charge"], .running⟩,
      .make (.create ⟨5⟩ ⟨⟨-7⟩, "Deliver", .completed, some []⟩),
      .make (.advance ⟨6⟩ ⟨9⟩ .running)]
    let p := (start ⟨"order", "r1"⟩).afterAll actions
    p.group.tasks.map (·.id) = [⟨1⟩, ⟨-7⟩] ∧ p.slot? ⟨-7⟩ = some 1 ∧
      ∃ q, (Action.make (.create ⟨7⟩ (.scheduled ⟨-7⟩ "Ship"))).step p
        = .error (.duplicateTask ⟨7⟩ ⟨-7⟩) q := by
  intro actions p
  obtain ⟨hids, -, hindex, -, -, hduplicate⟩ := index_follows_tasks ⟨"order", "r1"⟩ actions
  have hcreations : (start ⟨"order", "r1"⟩).creations actions = [⟨1⟩, ⟨-7⟩] := rfl
  rw [hcreations] at hids hduplicate
  refine ⟨hids, (hindex ⟨-7⟩ 1).2 ⟨_, rfl, rfl⟩, ?_⟩
  exact (hduplicate _ ⟨7⟩ ⟨-7⟩).2 ⟨rfl, rfl, by simp⟩

end Projection

end HistoryTree
