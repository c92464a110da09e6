import HistoryTree.Projection.Basic

/-!
# The index of a projection

A projection is `WellIndexed` when its index leads from the id of each task to the place of
that task, and nowhere else.  The index then adds nothing to the group: ids are distinct,
and each step does to the group what its name says (`WellIndexed.create_of_none`,
`WellIndexed.update_of_ok`, `WellIndexed.attachChild_of_some`), and keeps the index right.
-/

namespace HistoryTree

/-! ## Sequences of steps -/

section

variable {α β : Type} {p q : Projection} {step : Step α} {f : α → Step β} {a : α}
  {cause : ProjectionError}

theorem Step.bind_of_ok (h : step p = .ok a q) : (step >>= f) p = f a q := by
  show EStateM.bind step f p = _
  rw [EStateM.bind, h]

theorem Step.bind_of_error (h : step p = .error cause q) :
    (step >>= f) p = .error cause q := by
  show EStateM.bind step f p = _
  rw [EStateM.bind, h]

end

/-! ## Changes of one task -/

/-- The task with the sub-tasks of its child execution, running. -/
def Task.expanded (subTasks : List Task) (t : Task) : Task :=
  { t with status := .running, subTasks := some subTasks }

/-- The group with its tasks of an id changed. -/
def TaskGroup.modify (g : TaskGroup) (id : EventId) (f : Task → Task) : TaskGroup :=
  { g with tasks := g.tasks.map fun t => if t.id = id then f t else t }

namespace Projection

variable {p : Projection} {event id : EventId} {slot : Nat} {t u : Task} {f g : Task → Task}

/-- The projection with its tasks of an id changed. -/
def modify (p : Projection) (id : EventId) (f : Task → Task) : Projection :=
  { p with group := p.group.modify id f }

/-- The index leads from an id to the place of the task with that id, and nowhere else. -/
def WellIndexed (p : Projection) : Prop :=
  ∀ id slot, p.slot? id = some slot ↔ ∃ t, p.group.tasks[slot]? = some t ∧ t.id = id

/-! ## What the index says about the tasks -/

theorem WellIndexed.slot_unique (hp : p.WellIndexed) {i j : Nat} (ht : p.group.tasks[i]? = some t)
    (hu : p.group.tasks[j]? = some u) (hid : t.id = u.id) : i = j := by
  have hi : p.slot? t.id = some i := (hp t.id i).2 ⟨t, ht, rfl⟩
  have hj : p.slot? t.id = some j := (hp t.id j).2 ⟨u, hu, hid.symm⟩
  rw [hi] at hj
  exact Option.some.inj hj

theorem WellIndexed.task_unique (hp : p.WellIndexed) (ht : t ∈ p.group.tasks)
    (hu : u ∈ p.group.tasks) (hid : t.id = u.id) : t = u := by
  obtain ⟨i, hi⟩ := List.getElem?_of_mem ht
  obtain ⟨j, hj⟩ := List.getElem?_of_mem hu
  have hij := hp.slot_unique hi hj hid
  rw [hij, hj] at hi
  exact (Option.some.inj hi).symm

/-- In a projection with a correct index, an id leads to the task that has it. -/
theorem WellIndexed.resolve?_eq_some_iff (hp : p.WellIndexed) :
    p.resolve? id = some (slot, t) ↔ p.group.tasks[slot]? = some t ∧ t.id = id := by
  simp only [resolve?, Option.bind_eq_bind, Option.bind_eq_some_iff, pure]
  constructor
  · rintro ⟨i, hi, u, hu, heq⟩
    obtain ⟨rfl, rfl⟩ : i = slot ∧ u = t := by simpa using heq
    obtain ⟨v, hv, hid⟩ := (hp id i).1 hi
    rw [hu] at hv
    cases hv
    exact ⟨hu, hid⟩
  · rintro ⟨ht, hid⟩
    exact ⟨slot, (hp id slot).2 ⟨t, ht, hid⟩, t, ht, rfl⟩

theorem WellIndexed.task?_eq_some_iff (hp : p.WellIndexed) :
    p.group.task? id = some t ↔ t ∈ p.group.tasks ∧ t.id = id := by
  constructor
  · intro h
    exact ⟨List.mem_of_find?_eq_some h, by simpa using List.find?_some h⟩
  · rintro ⟨ht, hid⟩
    cases hfind : p.group.task? id with
    | none =>
      rw [TaskGroup.task?, List.find?_eq_none] at hfind
      exact absurd hid (by simpa using hfind t ht)
    | some u =>
      have hu : u ∈ p.group.tasks := List.mem_of_find?_eq_some hfind
      have huid : u.id = id := by simpa using List.find?_some hfind
      rw [hp.task_unique hu ht (huid.trans hid.symm)]

theorem WellIndexed.resolve?_of_some (hp : p.WellIndexed) (h : p.group.task? id = some t) :
    ∃ slot, p.resolve? id = some (slot, t) := by
  obtain ⟨ht, hid⟩ := hp.task?_eq_some_iff.1 h
  obtain ⟨slot, hslot⟩ := List.getElem?_of_mem ht
  exact ⟨slot, hp.resolve?_eq_some_iff.2 ⟨hslot, hid⟩⟩

theorem WellIndexed.resolve?_of_none (hp : p.WellIndexed) (h : p.group.task? id = none) :
    p.resolve? id = none := by
  cases hr : p.resolve? id with
  | none => rfl
  | some found =>
    obtain ⟨slot, t⟩ := found
    obtain ⟨ht, hid⟩ := hp.resolve?_eq_some_iff.1 hr
    rw [hp.task?_eq_some_iff.2 ⟨List.mem_of_getElem? ht, hid⟩] at h
    cases h

theorem WellIndexed.slot?_of_none (hp : p.WellIndexed) (h : p.group.task? id = none) :
    p.slot? id = none := by
  cases hs : p.slot? id with
  | none => rfl
  | some slot =>
    obtain ⟨t, ht, hid⟩ := (hp id slot).1 hs
    rw [hp.task?_eq_some_iff.2 ⟨List.mem_of_getElem? ht, hid⟩] at h
    cases h

/-! ## What keeps the index right -/

theorem wellIndexed_start (x : Execution) : (start x).WellIndexed := by
  intro id slot
  simp [start, TaskGroup.empty, slot?]

/-- A task with a new id keeps the index correct. -/
theorem WellIndexed.after_push (hp : p.WellIndexed) (ht : p.group.task? t.id = none) :
    (p.push t).WellIndexed := by
  intro id slot
  have htasks : (p.push t).group.tasks = p.group.tasks ++ [t] := rfl
  rw [slot?_push, htasks]
  by_cases hid : id = t.id
  · rw [if_pos hid]
    constructor
    · intro hslot
      obtain rfl : p.group.tasks.length = slot := Option.some.inj hslot
      exact ⟨t, by simp, hid.symm⟩
    · rintro ⟨u, hu, huid⟩
      by_cases hlt : slot < p.group.tasks.length
      · rw [List.getElem?_append_left hlt] at hu
        have hsome := hp.task?_eq_some_iff.2 ⟨List.mem_of_getElem? hu, huid.trans hid⟩
        rw [ht] at hsome
        cases hsome
      · have hle : slot < (p.group.tasks ++ [t]).length := (List.getElem?_eq_some_iff.1 hu).1
        rw [List.length_append, List.length_singleton] at hle
        exact congrArg some (by omega)
  · rw [if_neg hid, hp id slot]
    constructor
    · rintro ⟨u, hu, huid⟩
      have hlt := (List.getElem?_eq_some_iff.1 hu).1
      exact ⟨u, by rw [List.getElem?_append_left hlt, hu], huid⟩
    · rintro ⟨u, hu, huid⟩
      by_cases hlt : slot < p.group.tasks.length
      · exact ⟨u, by rw [← List.getElem?_append_left hlt, hu], huid⟩
      · have hmem : u ∈ [t] := by
          rw [List.getElem?_append_right (by omega)] at hu
          exact List.mem_of_getElem? hu
        rw [List.mem_singleton.1 hmem] at huid
        exact absurd huid.symm hid

/-- A change that keeps ids keeps the index correct. -/
theorem WellIndexed.after_modify (hp : p.WellIndexed) (hf : ∀ t, (f t).id = t.id) :
    (p.modify id f).WellIndexed := by
  intro id' slot
  have hid : ∀ t : Task, (if t.id = id then f t else t).id = t.id := by
    intro t
    split
    · exact hf t
    · rfl
  show p.slot? id' = some slot ↔ ∃ t : Task, (p.group.tasks.map _)[slot]? = some t ∧ t.id = id'
  rw [hp id' slot, List.getElem?_map]
  cases p.group.tasks[slot]? with
  | none => simp
  | some t => simp [hid t]

theorem WellIndexed.after_withStatus (hp : p.WellIndexed) (s : GroupStatus) :
    (p.withStatus s).WellIndexed :=
  hp

/-- Changing the task in a place is changing the tasks of its id, since there is no other. -/
theorem WellIndexed.setTask_eq_modify (hp : p.WellIndexed) (ht : p.group.tasks[slot]? = some t) :
    p.setTask slot (f t) = p.modify t.id f := by
  have htasks : p.group.tasks.set slot (f t)
      = p.group.tasks.map fun u => if u.id = t.id then f u else u := by
    refine List.ext_getElem? fun i => ?_
    rw [List.getElem?_set, List.getElem?_map]
    by_cases hi : slot = i
    · subst hi
      have hlt := (List.getElem?_eq_some_iff.1 ht).1
      rw [if_pos rfl, if_pos hlt, ht, Option.map_some, if_pos rfl]
    · rw [if_neg hi]
      cases hu : p.group.tasks[i]? with
      | none => rfl
      | some u =>
        have hne : u.id ≠ t.id := fun hid => hi (hp.slot_unique ht hu hid.symm)
        simp [hne]
  rw [setTask, modify, TaskGroup.modify, htasks]

/-! ## Steps -/

theorem WellIndexed.create_of_some (hp : p.WellIndexed) (h : p.group.task? t.id = some u) :
    create event t p = .error (.duplicateTask event t.id) p := by
  obtain ⟨slot, hslot⟩ := hp.resolve?_of_some h
  obtain ⟨hu, hid⟩ := hp.resolve?_eq_some_iff.1 hslot
  exact create_eq_error_iff.2 ⟨⟨slot, (hp t.id slot).2 ⟨u, hu, hid⟩⟩, rfl, rfl⟩

theorem WellIndexed.create_of_none (hp : p.WellIndexed) (h : p.group.task? t.id = none) :
    create event t p = .ok () (p.push t) :=
  create_eq_ok_iff.2 ⟨hp.slot?_of_none h, rfl⟩

variable {change : Task → Except Violation Task} {v : Violation}

theorem WellIndexed.update_of_none (hp : p.WellIndexed) (h : p.group.task? id = none) :
    update event id change p = .error (.unknownReference event id) p :=
  update_eq_error_iff.2 ⟨rfl, .inl ⟨hp.resolve?_of_none h, rfl⟩⟩

theorem WellIndexed.update_of_error (hp : p.WellIndexed) (h : p.group.task? id = some t)
    (hchange : change t = .error v) :
    update event id change p = .error (.violation event v) p := by
  obtain ⟨slot, hslot⟩ := hp.resolve?_of_some h
  exact update_eq_error_iff.2 ⟨rfl, .inr ⟨slot, t, v, hslot, hchange, rfl⟩⟩

theorem WellIndexed.update_of_ok (hp : p.WellIndexed) (h : p.group.task? id = some t)
    (f : Task → Task) (hchange : change t = .ok (f t)) :
    update event id change p = .ok () (p.modify id f) := by
  obtain ⟨slot, hslot⟩ := hp.resolve?_of_some h
  obtain ⟨ht, rfl⟩ := hp.resolve?_eq_some_iff.1 hslot
  exact update_eq_ok_iff.2 ⟨slot, t, f t, hslot, hchange, (hp.setTask_eq_modify ht).symm⟩

theorem WellIndexed.find_of_none (hp : p.WellIndexed) (h : p.group.task? id = none) :
    find event id p = .error (.unknownReference event id) p := by
  rw [find, hp.resolve?_of_none h]

theorem WellIndexed.find_of_some (hp : p.WellIndexed) (event : EventId)
    (h : p.group.task? id = some t) : ∃ slot, find event id p = .ok (slot, t) p := by
  obtain ⟨slot, hslot⟩ := hp.resolve?_of_some h
  exact ⟨slot, by rw [find, hslot]⟩

theorem modify_modify (hf : ∀ t, (f t).id = t.id) :
    (p.modify id f).modify id g = p.modify id (g ∘ f) := by
  simp only [modify, TaskGroup.modify, List.map_map]
  congr 2
  refine List.map_congr_left fun t _ => ?_
  by_cases hid : t.id = id
  · simp [hid, hf t]
  · simp [hid]

/-- A task that was changed is found as it is after the change. -/
theorem task?_modify (hf : ∀ t, (f t).id = t.id) (h : p.group.task? id = some t) :
    (p.modify id f).group.task? id = some (f t) := by
  have hid : t.id = id := by simpa using List.find?_some h
  have hpred : (fun u : Task => decide ((if u.id = id then f u else u).id = id))
      = fun u => decide (u.id = id) := by
    funext u
    by_cases hu : u.id = id
    · simp [hu, hf u]
    · simp [hu]
  show (p.group.tasks.map _).find? _ = _
  rw [List.find?_map]
  show ((p.group.tasks.find? fun u => decide ((if u.id = id then f u else u).id = id)).map _) = _
  rw [hpred]
  show ((p.group.task? id).map _) = _
  rw [h]
  simp [hid]

/-- A task that was just created is the only one of its id. -/
theorem modify_push (h : p.group.task? t.id = none) (hf : (f t).id = t.id) :
    (p.push t).modify t.id f = p.push (f t) := by
  have hold : p.group.tasks.map (fun u => if u.id = t.id then f u else u) = p.group.tasks := by
    rw [TaskGroup.task?, List.find?_eq_none] at h
    calc p.group.tasks.map (fun u => if u.id = t.id then f u else u)
        = p.group.tasks.map id := List.map_congr_left fun u hu => if_neg (by simpa using h u hu)
      _ = p.group.tasks := List.map_id _
  simp [push, modify, TaskGroup.modify, hold, hf]

/-- A task that can run and has no sub-tasks takes those of a child, and runs. -/
theorem WellIndexed.attachChild_of_some (hp : p.WellIndexed) (h : p.group.task? id = some t)
    (hrun : t.status.canMoveTo .running = true) (hsub : t.subTasks = none) (child : TaskGroup) :
    attachChild event id child p = .ok () (p.modify id (.expanded child.tasks)) := by
  let attached : Task → Task := fun u => { u with subTasks := some child.tasks }
  have hattached : ∀ u, (attached u).id = u.id := fun _ => rfl
  have hattach : attach event id child.tasks p = .ok () (p.modify id attached) := by
    refine hp.update_of_ok h attached ?_
    rw [Task.attach, hsub]
  have hadvance : advance event id .running (p.modify id attached)
      = .ok () ((p.modify id attached).modify id fun u => { u with status := .running }) := by
    refine (hp.after_modify hattached).update_of_ok (task?_modify hattached h) _ ?_
    have hmove : (attached t).status.moveTo .running = .ok .running := by
      rw [TaskStatus.moveTo, if_pos hrun]
    rw [Task.advance, hmove]
  rw [attachChild, Step.bind_of_ok hattach, hadvance, modify_modify hattached]
  rfl

end Projection

end HistoryTree
