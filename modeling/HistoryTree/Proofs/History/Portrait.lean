import HistoryTree.Proofs.History.Coherence

/-!
# The group that a history depicts

What a history says about its tasks can be read off the history as a whole: a task is where
the last event that refers to it left it, and has the sub-tasks of the child that it
started.  `History.portrait` is the group read in this way, given the sub-tasks of each
child.  One more event changes the portrait by what the event says
(`portrait_append_of_moves` and the lemmas beside it), and in a coherent history a task is
closed exactly when an event closes it (`Coherent.status_taskNow_of_closes`,
`isTerminal_taskNow_eq_false`).
-/

namespace HistoryTree.History

/-- The status to which the last event that refers to a task moves it. -/
def lastTarget? (h : History) (task : EventId) : Option TaskStatus :=
  (h.filter (·.refersTo task)).getLast?.bind (·.meaning.target?)

/-- The child execution that a task started. -/
def childOf? (h : History) (task : EventId) : Option Execution := h.starts.lookup task

/-- What became of a task, given the sub-tasks of each child execution. -/
def taskNow (h : History) (subTasks : Execution → List Task) (t : Task) : Task :=
  { t with
    status := (h.lastTarget? t.id).getD t.status
    subTasks := (h.childOf? t.id).map subTasks }

/-- The status to which the last event that moves the execution itself moves it. -/
def groupStatus (h : History) : GroupStatus :=
  (h.filterMap (·.groupTarget?)).getLast?.getD .running

/-- The group that a history depicts, given the sub-tasks of each child execution. -/
def portrait (h : History) (x : Execution) (subTasks : Execution → List Task) : TaskGroup :=
  ⟨x, h.created.map (h.taskNow subTasks), h.groupStatus⟩

variable {h : History} {e : HistoryEvent} {t : Task} {task r : EventId} {x child : Execution}
  {subTasks : Execution → List Task}

/-- The portrait of the history without events is the empty group. -/
theorem portrait_nil : portrait [] x subTasks = .empty x := rfl

/-! ## One more event -/

theorem lastTarget?_append_singleton (h : History) (e : HistoryEvent) (task : EventId) :
    lastTarget? (h ++ [e]) task
      = if e.refersTo task then e.meaning.target? else h.lastTarget? task := by
  rw [lastTarget?, lastTarget?, List.filter_append]
  by_cases href : e.refersTo task = true
  · simp [href]
  · simp [href]

theorem childOf?_append_singleton (h : History) (e : HistoryEvent) (task : EventId) :
    childOf? (h ++ [e]) task = (h.childOf? task).or (childOf? [e] task) := by
  rw [childOf?, starts_append, List.lookup_append]
  rfl

/-- A task has no child exactly if none is started for it. -/
theorem childOf?_eq_none_iff : h.childOf? task = none ↔ task ∉ h.starts.map (·.1) := by
  rw [childOf?, List.lookup_eq_none_iff]
  constructor
  · intro hall hmem
    obtain ⟨s, hs, rfl⟩ := List.mem_map.1 hmem
    simpa using hall s hs
  · intro hnot s hs
    have hne : task ≠ s.1 := fun heq => hnot (List.mem_map.2 ⟨s, hs, heq.symm⟩)
    simpa using hne

theorem childOf?_singleton_of_starts (hm : e.meaning = .starts task child) :
    childOf? [e] task = some child := by
  simp [childOf?, starts, HistoryEvent.start?_eq_some_iff.2 hm]

theorem childOf?_singleton_of_not_refersTo (href : e.refersTo task = false) :
    childOf? [e] task = none := by
  cases hs : e.start? with
  | none => simp [childOf?, starts, hs]
  | some s =>
    obtain ⟨r, child⟩ := s
    have hm := HistoryEvent.start?_eq_some_iff.1 hs
    have hne : task ≠ r := by
      rintro rfl
      rw [HistoryEvent.refersTo_of_starts hm] at href
      cases href
    simp [childOf?, starts, hs, hne]

/-- An event that does not refer to a task leaves it as it is. -/
theorem taskNow_append_of_not_refersTo (href : e.refersTo t.id = false) :
    taskNow (h ++ [e]) subTasks t = h.taskNow subTasks t := by
  rw [taskNow, taskNow, lastTarget?_append_singleton, childOf?_append_singleton,
    childOf?_singleton_of_not_refersTo href, Option.or_none, href]
  rfl

/-- An event that moves a task gives it another status. -/
theorem taskNow_append_of_moves {next : TaskStatus} (hm : e.meaning = .moves t.id next) :
    taskNow (h ++ [e]) subTasks t = { h.taskNow subTasks t with status := next } := by
  have hstart : e.start? = none := by rw [HistoryEvent.start?, hm]
  have hchild : childOf? [e] t.id = none := by simp [childOf?, starts, hstart]
  rw [taskNow, taskNow, lastTarget?_append_singleton, childOf?_append_singleton, hchild,
    Option.or_none, if_pos (HistoryEvent.refersTo_of_moves hm), hm]
  rfl

theorem taskNow_append_of_starts (hm : e.meaning = .starts t.id child)
    (hnew : t.id ∉ h.starts.map (·.1)) :
    taskNow (h ++ [e]) subTasks t = (h.taskNow subTasks t).expanded (subTasks child) := by
  rw [taskNow, taskNow, lastTarget?_append_singleton, childOf?_append_singleton,
    childOf?_eq_none_iff.2 hnew, childOf?_singleton_of_starts hm,
    if_pos (HistoryEvent.refersTo_of_starts hm), hm]
  rfl

theorem groupStatus_append_of_movesGroup {s : GroupStatus} (hm : e.meaning = .movesGroup s) :
    groupStatus (h ++ [e]) = s := by
  simp [groupStatus, HistoryEvent.groupTarget?_eq_some_iff.2 hm]

theorem groupStatus_append_of_none (hm : e.groupTarget? = none) :
    groupStatus (h ++ [e]) = h.groupStatus := by
  simp [groupStatus, hm]

/-- A task to which no event refers is as it was created. -/
theorem taskNow_of_not_refersTo (hnone : ∀ e ∈ h, e.refersTo t.id = false)
    (hsub : t.subTasks = none) : h.taskNow subTasks t = t := by
  have hlast : h.lastTarget? t.id = none := by
    have hfilter : h.filter (·.refersTo t.id) = [] := by simpa using hnone
    rw [lastTarget?, hfilter]
    rfl
  have hchild : h.childOf? t.id = none := by
    rw [childOf?_eq_none_iff]
    intro hmem
    obtain ⟨⟨r, child⟩, hstart, rfl⟩ := List.mem_map.1 hmem
    obtain ⟨e, he, hs⟩ := List.mem_filterMap.1 hstart
    have href := hnone e he
    rw [HistoryEvent.refersTo_of_starts (HistoryEvent.start?_eq_some_iff.1 hs)] at href
    cases href
  rw [taskNow, hlast, hchild]
  cases t
  cases hsub
  rfl

/-- An event that creates a task puts it behind the others. -/
theorem portrait_append_of_creates (hc : h.Coherent) (hm : e.meaning = .creates t)
    (hnew : t.id ∉ h.createdIds) :
    portrait (h ++ [e]) x subTasks
      = { h.portrait x subTasks with tasks := (h.portrait x subTasks).tasks ++ [t] } := by
  have hsub := (HistoryEvent.of_meaning_creates hm).2.2
  have hcreated : created (h ++ [e]) = h.created ++ [t] := by
    rw [created_append]
    simp [created, HistoryEvent.created?_eq_some_iff.2 hm]
  have hold : ∀ u, taskNow (h ++ [e]) subTasks u = h.taskNow subTasks u := fun u =>
    taskNow_append_of_not_refersTo (HistoryEvent.refersTo_of_creates hm)
  have hlast : h.taskNow subTasks t = t := by
    refine taskNow_of_not_refersTo (fun e' he' => ?_) hsub
    cases href : e'.refersTo t.id with
    | false => rfl
    | true => exact absurd (hc.mem_createdIds he' href) hnew
  have hgroup : e.groupTarget? = none := by rw [HistoryEvent.groupTarget?, hm]
  rw [portrait, hcreated, List.map_append, List.map_congr_left fun u _ => hold u,
    groupStatus_append_of_none hgroup, List.map_singleton, hold t, hlast]
  rfl

/-- What one more event that creates no task and does not move the execution does to the tasks
it refers to. -/
theorem portrait_append_of_refersTo {f : Task → Task} (href : e.meaning.reference? = some task)
    (hf : ∀ t, t.id = task → taskNow (h ++ [e]) subTasks t = f (h.taskNow subTasks t)) :
    portrait (h ++ [e]) x subTasks = (h.portrait x subTasks).modify task f := by
  have hcreated : created (h ++ [e]) = h.created := by
    rw [created_append, created_singleton_of_not_creates, List.append_nil]
    intro t hm
    rw [hm] at href
    cases href
  have hgroup : e.groupTarget? = none := by
    rw [HistoryEvent.groupTarget?]
    cases hm : e.meaning with
    | movesGroup s => rw [hm] at href; cases href
    | _ => rfl
  have htasks : ∀ t ∈ h.created, taskNow (h ++ [e]) subTasks t
      = if (h.taskNow subTasks t).id = task then f (h.taskNow subTasks t)
        else h.taskNow subTasks t := by
    intro t _
    by_cases hid : t.id = task
    · rw [hf t hid, if_pos (show (h.taskNow subTasks t).id = task from hid)]
    · rw [if_neg (show (h.taskNow subTasks t).id ≠ task from hid)]
      refine taskNow_append_of_not_refersTo ?_
      rw [Bool.eq_false_iff, Ne, HistoryEvent.refersTo_iff, href]
      exact fun heq => hid (Option.some.inj heq).symm
  rw [portrait, hcreated, groupStatus_append_of_none hgroup, TaskGroup.modify, portrait,
    List.map_map, List.map_congr_left htasks]
  rfl

/-- An event that moves a task changes the status of this task alone. -/
theorem portrait_append_of_moves {next : TaskStatus} (hm : e.meaning = .moves task next) :
    portrait (h ++ [e]) x subTasks
      = (h.portrait x subTasks).modify task fun t => { t with status := next } := by
  refine portrait_append_of_refersTo (by rw [hm]; rfl) ?_
  rintro t rfl
  exact taskNow_append_of_moves hm

/-- An event that starts a child hangs the tasks of the child below its task. -/
theorem portrait_append_of_starts (hm : e.meaning = .starts task child)
    (hnew : task ∉ h.starts.map (·.1)) :
    portrait (h ++ [e]) x subTasks
      = (h.portrait x subTasks).modify task (.expanded (subTasks child)) := by
  refine portrait_append_of_refersTo (by rw [hm]; rfl) ?_
  rintro t rfl
  exact taskNow_append_of_starts hm hnew

/-- An event that says nothing about tasks leaves all of them as they are. -/
theorem portrait_append_of_no_task (hm : ∀ t, e.meaning ≠ .creates t)
    (href : e.meaning.reference? = none) :
    portrait (h ++ [e]) x subTasks
      = { h.portrait x subTasks with status := groupStatus (h ++ [e]) } := by
  have hcreated : created (h ++ [e]) = h.created := by
    rw [created_append, created_singleton_of_not_creates hm, List.append_nil]
  have htasks : ∀ t ∈ h.created, taskNow (h ++ [e]) subTasks t = h.taskNow subTasks t := by
    intro t _
    refine taskNow_append_of_not_refersTo ?_
    rw [Bool.eq_false_iff, Ne, HistoryEvent.refersTo_iff, href]
    exact fun heq => by cases heq
  rw [portrait, hcreated, List.map_congr_left htasks]
  rfl

theorem portrait_append_of_movesGroup {s : GroupStatus} (hm : e.meaning = .movesGroup s) :
    portrait (h ++ [e]) x subTasks = { h.portrait x subTasks with status := s } := by
  rw [portrait_append_of_no_task (by simp [hm]) (by rw [hm]; rfl),
    groupStatus_append_of_movesGroup hm]

/-- An event without meaning leaves the portrait as it is. -/
theorem portrait_append_of_nothing (hm : e.meaning = .nothing) :
    portrait (h ++ [e]) x subTasks = h.portrait x subTasks := by
  rw [portrait_append_of_no_task (by simp [hm]) (by rw [hm]; rfl),
    groupStatus_append_of_none (by rw [HistoryEvent.groupTarget?, hm])]
  rfl

/-! ## What a portrait shows -/

theorem task?_portrait_eq_none (hid : task ∉ h.createdIds) :
    (h.portrait x subTasks).task? task = none := by
  rw [TaskGroup.task?, List.find?_eq_none]
  intro u hu
  obtain ⟨t, ht, rfl⟩ := List.mem_map.1 hu
  have hne : (h.taskNow subTasks t).id ≠ task := fun heq => hid (List.mem_map.2 ⟨t, ht, heq⟩)
  simpa using hne

/-- A task that was created is found in the portrait, in the state that the history gives it. -/
theorem exists_task?_portrait (hid : task ∈ h.createdIds) :
    ∃ t ∈ h.created, t.id = task ∧
      (h.portrait x subTasks).task? task = some (h.taskNow subTasks t) := by
  have hsome : (h.created.find? (·.id = task)).isSome := by
    obtain ⟨t, ht, heq⟩ := List.mem_map.1 hid
    rw [List.find?_isSome]
    exact ⟨t, ht, by simpa using heq⟩
  obtain ⟨t, hfind⟩ := Option.isSome_iff_exists.1 hsome
  refine ⟨t, List.mem_of_find?_eq_some hfind, by simpa using List.find?_some hfind, ?_⟩
  show (h.created.map (h.taskNow subTasks)).find? (·.id = task) = _
  rw [List.find?_map]
  show (h.created.find? (·.id = task)).map _ = _
  rw [hfind]
  rfl

/-- The event that closes a task is the last one that refers to it. -/
theorem Coherent.getLast?_refersTo {c : HistoryEvent} (hc : h.Coherent) (hmem : c ∈ h)
    (hclose : c.closes task = true) : (h.filter (·.refersTo task)).getLast? = some c := by
  obtain ⟨before, after, rfl⟩ := List.append_of_mem hmem
  have hafter : after.filter (·.refersTo task) = [] := by
    simpa using fun e he => hc.not_refersTo_of_closes rfl hclose he
  have href : c.refersTo task = true := (HistoryEvent.closes_iff.1 hclose).1
  rw [List.filter_append, List.filter_cons, if_pos href, hafter]
  simp

/-- No other event closes a task that an event closes. -/
theorem Coherent.filter_closes {c : HistoryEvent} (hc : h.Coherent) (hmem : c ∈ h)
    (hclose : c.closes task = true) : h.filter (·.closes task) = [c] := by
  obtain ⟨before, after, rfl⟩ := List.append_of_mem hmem
  have href : c.refersTo task = true := (HistoryEvent.closes_iff.1 hclose).1
  have hbefore : before.filter (·.closes task) = [] := by
    simpa using (hc.refers_open before c after rfl task href).2
  have hafter : after.filter (·.closes task) = [] := by
    rw [List.filter_eq_nil_iff]
    intro e he hclose'
    have hnot := hc.not_refersTo_of_closes rfl hclose he
    rw [(HistoryEvent.closes_iff.1 hclose').1] at hnot
    cases hnot
  rw [List.filter_append, List.filter_cons, if_pos hclose, hbefore, hafter]
  rfl

/-- A task that an event closed has the status to which that event moves it. -/
theorem Coherent.status_taskNow_of_closes {c : HistoryEvent} {s : TaskStatus} (hc : h.Coherent)
    (hmem : c ∈ h) (hclose : c.closes t.id = true) (hs : c.meaning.target? = some s) :
    (h.taskNow subTasks t).status = s := by
  show (h.lastTarget? t.id).getD t.status = s
  rw [lastTarget?, hc.getLast?_refersTo hmem hclose, Option.bind_some, hs]
  rfl

/-- A task that no event closed is open. -/
theorem isTerminal_taskNow_eq_false (subTasks : Execution → List Task) (ht : t ∈ h.created)
    (hopen : ∀ c ∈ h, ¬ c.closes t.id) :
    (h.taskNow subTasks t).status.isTerminal = false := by
  show ((h.lastTarget? t.id).getD t.status).isTerminal = false
  cases hlast : h.lastTarget? t.id with
  | none =>
    obtain ⟨e, -, he⟩ := List.mem_filterMap.1 ht
    exact (HistoryEvent.of_meaning_creates (HistoryEvent.created?_eq_some_iff.1 he)).2.1
  | some s =>
    obtain ⟨c, hc, hs⟩ := Option.bind_eq_some_iff.1 hlast
    have hmem := List.mem_filter.1 (List.mem_of_getLast? hc)
    rw [Option.getD_some, Bool.eq_false_iff]
    intro hterm
    exact hopen c hmem.1 (HistoryEvent.closes_iff.2 ⟨hmem.2, s, hs, hterm⟩)

/-- A task is closed exactly when one event closes it, and then no later one refers to it. -/
theorem Coherent.isTerminal_taskNow_iff (hc : h.Coherent) (ht : t ∈ h.created) :
    (h.taskNow subTasks t).isTerminal = true ↔ ∃ c, h.filter (·.closes t.id) = [c] ∧
      (h.filter (·.refersTo t.id)).getLast? = some c := by
  constructor
  · intro hterm
    by_cases hopen : ∀ c ∈ h, ¬ c.closes t.id
    · have hfalse := isTerminal_taskNow_eq_false subTasks ht hopen
      rw [← Task.isTerminal, hterm] at hfalse
      cases hfalse
    · push Not at hopen
      obtain ⟨c, hmem, hclose⟩ := hopen
      exact ⟨c, hc.filter_closes hmem hclose, hc.getLast?_refersTo hmem hclose⟩
  · rintro ⟨c, hfilter, -⟩
    obtain ⟨hmem, hclose⟩ := List.mem_filter.1 (hfilter ▸ List.mem_singleton_self c)
    obtain ⟨-, s, hs, hterm⟩ := HistoryEvent.closes_iff.1 hclose
    rw [Task.isTerminal, hc.status_taskNow_of_closes hmem hclose hs, hterm]

/-- A task has sub-tasks, be they none, exactly if a child was started for it. -/
theorem subTasks_taskNow_isSome_iff (subTasks : Execution → List Task) :
    (h.taskNow subTasks t).subTasks.isSome = true ↔ t.id ∈ h.starts.map (·.1) := by
  show ((h.childOf? t.id).map subTasks).isSome = true ↔ _
  rw [Option.isSome_map, Option.isSome_iff_ne_none, Ne, childOf?_eq_none_iff, not_not]

theorem mem_starts_iff : (task, child) ∈ h.starts ↔ ∃ e ∈ h, e.meaning = .starts task child := by
  simp only [starts, List.mem_filterMap, HistoryEvent.start?_eq_some_iff]

/-- The child that a task started is the one that any event says it did. -/
theorem Coherent.childOf?_of_starts (hc : h.Coherent) (hmem : e ∈ h)
    (hm : e.meaning = .starts task child) : h.childOf? task = some child := by
  have hstart : (task, child) ∈ h.starts := mem_starts_iff.2 ⟨e, hmem, hm⟩
  obtain ⟨before, after, hsplit⟩ := List.append_of_mem hstart
  have honce := hc.started_once
  rw [hsplit, List.map_append, List.map_cons, List.nodup_middle, List.nodup_cons] at honce
  rw [childOf?, hsplit, List.lookup_eq_some_iff]
  refine ⟨before, after, rfl, ?_⟩
  intro s hs
  have hne : task ≠ s.1 := fun heq =>
    honce.1 (List.mem_append_left _ (List.mem_map.2 ⟨s, hs, heq.symm⟩))
  simpa using hne

/-- After an execution closed, no event moves it. -/
theorem Coherent.groupTarget?_eq_none {before after : History} {c : HistoryEvent}
    (hc : Coherent (before ++ c :: after)) (hclose : c.closesGroup = true) (he : e ∈ after) :
    e.groupTarget? = none := by
  obtain ⟨between, rest, rfl⟩ := List.append_of_mem he
  by_contra hsome
  refine hc.group_open (before ++ c :: between) e rest (by simp) ?_ c (by simp) hclose
  exact Option.isSome_iff_ne_none.2 hsome

/-- An execution that closed has the status with which it did. -/
theorem Coherent.groupStatus_of_closesGroup {c : HistoryEvent} {s : GroupStatus} (hc : h.Coherent)
    (hmem : c ∈ h) (hm : c.meaning = .movesGroup s) (hs : s.isTerminal = true) :
    h.groupStatus = s := by
  obtain ⟨before, after, rfl⟩ := List.append_of_mem hmem
  have htarget : c.groupTarget? = some s := HistoryEvent.groupTarget?_eq_some_iff.2 hm
  have hafter : after.filterMap (·.groupTarget?) = [] := by
    rw [List.filterMap_eq_nil_iff]
    exact fun e he => hc.groupTarget?_eq_none (HistoryEvent.closesGroup_iff.2 ⟨s, hm, hs⟩) he
  rw [groupStatus, List.filterMap_append, List.filterMap_cons_some htarget, hafter]
  simp

/-- No other event closes an execution that an event closes. -/
theorem Coherent.filter_closesGroup {c : HistoryEvent} (hc : h.Coherent) (hmem : c ∈ h)
    (hclose : c.closesGroup = true) : h.filter (·.closesGroup) = [c] := by
  obtain ⟨before, after, rfl⟩ := List.append_of_mem hmem
  obtain ⟨s, hm, -⟩ := HistoryEvent.closesGroup_iff.1 hclose
  have hbefore : before.filter (·.closesGroup) = [] := by
    have hsome : c.groupTarget?.isSome := by
      rw [HistoryEvent.groupTarget?_eq_some_iff.2 hm]
      rfl
    simpa using hc.group_open before c after rfl hsome
  have hafter : after.filter (·.closesGroup) = [] := by
    rw [List.filter_eq_nil_iff]
    intro e he
    rw [HistoryEvent.closesGroup, hc.groupTarget?_eq_none hclose he]
    exact Bool.false_ne_true
  rw [List.filter_append, List.filter_cons, if_pos hclose, hbefore, hafter]
  rfl

/-- An execution that no event closed is running. -/
theorem groupStatus_eq_running (hopen : ∀ c ∈ h, ¬ c.closesGroup) : h.groupStatus = .running := by
  rw [groupStatus]
  cases hlast : (h.filterMap (·.groupTarget?)).getLast? with
  | none => rfl
  | some s =>
    obtain ⟨c, hc, hs⟩ := List.mem_filterMap.1 (List.mem_of_getLast? hlast)
    have hm := HistoryEvent.groupTarget?_eq_some_iff.1 hs
    cases s with
    | running => rfl
    | completed => exact absurd (HistoryEvent.closesGroup_iff.2 ⟨_, hm, rfl⟩) (hopen c hc)
    | failed => exact absurd (HistoryEvent.closesGroup_iff.2 ⟨_, hm, rfl⟩) (hopen c hc)

end HistoryTree.History
