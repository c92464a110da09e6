import HistoryTree.Proofs.History.Portrait

/-!
# Projections that depict a history

While the events of a history are applied, the projection depicts the events so far.  From
this alone it follows what the next event leads to: it is refused exactly for what the
history breaks with it (`Depicts.dispatch_of_breaks`), and otherwise leaves behind a
projection that depicts one more event (`Depicts.dispatch_of_admits`), if need be once the
child execution that it starts is projected (`Depicts.dispatch_of_starts`,
`Depicts.attachChild`).
-/

namespace HistoryTree.Projection

open History (Breaks Admits)

/-- The index of a projection is right and its group is the one that a history depicts. -/
structure Depicts (p : Projection) (x : Execution) (h : History)
    (subTasks : Execution → List Task) : Prop where
  wellIndexed : p.WellIndexed
  group_eq : p.group = h.portrait x subTasks

variable {p : Projection} {x child : Execution} {h : History} {subTasks : Execution → List Task}
  {e : HistoryEvent} {task : EventId} {cause : ProjectionError}

/-- At the start, a projection depicts the history without events. -/
theorem depicts_start (x : Execution) (subTasks : Execution → List Task) :
    (start x).Depicts x [] subTasks :=
  ⟨wellIndexed_start x, History.portrait_nil.symm⟩

namespace Depicts

theorem task?_eq_none (hp : p.Depicts x h subTasks) (hid : task ∉ h.createdIds) :
    p.group.task? task = none := by
  rw [hp.group_eq, History.task?_portrait_eq_none hid]

/-- A task that was created is found, in the state that the history gives it. -/
theorem exists_task? (hp : p.Depicts x h subTasks) (hid : task ∈ h.createdIds) :
    ∃ t ∈ h.created, t.id = task ∧ p.group.task? task = some (h.taskNow subTasks t) := by
  rw [hp.group_eq]
  exact History.exists_task?_portrait hid

/-- A task for which there is room is open, and has sub-tasks when it started a child. -/
theorem exists_open_task? (hp : p.Depicts x h subTasks) (ha : h.Admits e)
    (href : e.refersTo task = true) :
    ∃ t, p.group.task? task = some t ∧ t.status.isTerminal = false ∧
      (t.subTasks.isSome = true ↔ task ∈ h.starts.map (·.1)) := by
  obtain ⟨hid, hopen⟩ := ha.refers_open task href
  obtain ⟨t, ht, rfl, htask⟩ := hp.exists_task? hid
  have hterm := History.isTerminal_taskNow_eq_false subTasks ht hopen
  exact ⟨_, htask, hterm, History.subTasks_taskNow_isSome_iff subTasks⟩

/-! ## Events that are refused -/

/-- An event that refers to a task that was not created fails. -/
theorem dispatch_of_unknown (hp : p.Depicts x h subTasks) (href : e.refersTo task = true)
    (hid : task ∉ h.createdIds) :
    Registry.standard.dispatch e p = .error (.unknownReference e.id task) p := by
  have hnone := hp.task?_eq_none hid
  rcases HistoryEvent.moves_or_starts_of_refersTo href with ⟨next, hm⟩ | ⟨child, hm⟩
  · exact Registry.dispatch_moves_of_none hp.wellIndexed hm hnone
  · exact Registry.dispatch_starts_of_none hp.wellIndexed hm hnone

/-- An event that moves a task which an earlier event closed fails. -/
theorem dispatch_of_closed {c : HistoryEvent} {s next : TaskStatus} (hp : p.Depicts x h subTasks)
    (hc : h.Coherent) (href : e.refersTo task = true) (hid : task ∈ h.createdIds) (hmem : c ∈ h)
    (hclose : c.closes task = true) (hs : c.meaning.target? = some s)
    (hnext : e.meaning.target? = some next) :
    Registry.standard.dispatch e p = .error (.violation e.id (.taskMove s next)) p := by
  obtain ⟨t, -, rfl, htask⟩ := hp.exists_task? hid
  have hstatus : (h.taskNow subTasks t).status = s := hc.status_taskNow_of_closes hmem hclose hs
  have hterm : (h.taskNow subTasks t).status.isTerminal = true := by
    obtain ⟨-, s', hs', hterm⟩ := HistoryEvent.closes_iff.1 hclose
    rw [hs] at hs'
    cases hs'
    rw [hstatus, hterm]
  rcases HistoryEvent.moves_or_starts_of_refersTo href with ⟨next', hm⟩ | ⟨child, hm⟩
  · obtain rfl : next' = next := by
      rw [hm] at hnext
      exact Option.some.inj hnext
    rw [Registry.dispatch_moves_of_closed hp.wellIndexed hm htask hterm, hstatus]
  · obtain rfl : TaskStatus.running = next := by
      rw [hm] at hnext
      exact Option.some.inj hnext
    rw [Registry.dispatch_starts_of_some hp.wellIndexed hm htask,
      Registry.checkChildStart_of_closed hterm, hstatus]

/-- An event that breaks with the history so far is refused for it, and changes nothing. -/
theorem dispatch_of_breaks (hp : p.Depicts x h subTasks) (hc : h.Coherent)
    (hb : h.Breaks e cause) : Registry.standard.dispatch e p = .error cause p := by
  cases hb with
  | duplicate hm hid =>
    obtain ⟨t, -, -, htask⟩ := hp.exists_task? hid
    exact Registry.dispatch_creates_of_some hp.wellIndexed hm htask
  | unknown href hid => exact hp.dispatch_of_unknown href hid
  | closed href hid hmem hclose hs hnext =>
    exact hp.dispatch_of_closed hc href hid hmem hclose hs hnext
  | startedAgain hm hid hopen hstarted =>
    obtain ⟨t, ht, rfl, htask⟩ := hp.exists_task? hid
    have hterm := History.isTerminal_taskNow_eq_false subTasks ht hopen
    have hsub := (History.subTasks_taskNow_isSome_iff subTasks).2 hstarted
    rw [Registry.dispatch_starts_of_some hp.wellIndexed hm htask,
      Registry.checkChildStart_of_open hterm, if_pos hsub]
    rfl
  | groupClosed hm hmem hclose hterm =>
    have hstatus := hc.groupStatus_of_closesGroup hmem hclose hterm
    rw [← show p.group.status = h.groupStatus by rw [hp.group_eq]; rfl] at hstatus
    rw [Registry.dispatch_movesGroup hm, hstatus, if_neg]
    rintro rfl
    cases hterm

/-! ## Events that are applied -/

/-- An event for which there is room, and which starts no child execution, is applied. -/
theorem dispatch_of_admits (hp : p.Depicts x h subTasks) (hc : h.Coherent) (ha : h.Admits e)
    (hchild : e.kind.child? = none) :
    ∃ q, Registry.standard.dispatch e p = .ok .applied q ∧ q.Depicts x (h ++ [e]) subTasks := by
  cases hm : e.meaning with
  | creates t =>
    have hid : t.id = e.id := (HistoryEvent.of_meaning_creates hm).1
    have hnew : e.id ∉ h.createdIds := ha.created_new t hm
    have hnone : p.group.task? e.id = none := hp.task?_eq_none hnew
    refine ⟨p.push t, Registry.dispatch_creates_of_none hp.wellIndexed hm hnone, ?_⟩
    constructor
    · exact hp.wellIndexed.after_push (by rw [hid, hnone])
    · rw [History.portrait_append_of_creates hc hm (by rwa [hid]), ← hp.group_eq]
      rfl
  | moves task next =>
    obtain ⟨t, htask, hterm, -⟩ := hp.exists_open_task? ha (HistoryEvent.refersTo_of_moves hm)
    refine ⟨_, Registry.dispatch_moves_of_open hp.wellIndexed hm htask hterm, ?_⟩
    constructor
    · exact hp.wellIndexed.after_modify fun _ => rfl
    · rw [History.portrait_append_of_moves hm, ← hp.group_eq]
      rfl
  | starts task child =>
    rw [e.child?_eq, hm] at hchild
    cases hchild
  | movesGroup s =>
    have hrun : p.group.status = .running := by
      rw [hp.group_eq]
      exact History.groupStatus_eq_running (ha.group_open s hm)
    refine ⟨p.withStatus s, by rw [Registry.dispatch_movesGroup hm, if_pos hrun], ?_⟩
    constructor
    · exact hp.wellIndexed.after_withStatus s
    · rw [History.portrait_append_of_movesGroup hm, ← hp.group_eq]
      rfl
  | nothing =>
    refine ⟨p, Registry.dispatch_nothing hm, hp.wellIndexed, ?_⟩
    rw [History.portrait_append_of_nothing hm, hp.group_eq]

/-- An event that starts a child execution is only checked; the child is asked for. -/
theorem dispatch_of_starts (hp : p.Depicts x h subTasks) (ha : h.Admits e)
    (hm : e.meaning = .starts task child) :
    Registry.standard.dispatch e p = .ok (.expandChild task child) p := by
  obtain ⟨t, htask, hterm, hsome⟩ := hp.exists_open_task? ha (HistoryEvent.refersTo_of_starts hm)
  have hsub := mt hsome.1 (ha.started_new task child hm)
  rw [Registry.dispatch_starts_of_some hp.wellIndexed hm htask,
    Registry.checkChildStart_of_open hterm, if_neg hsub]

/-- What was checked before the child was projected still holds when its tasks arrive. -/
theorem attachChild (hp : p.Depicts x h subTasks) (ha : h.Admits e)
    (hm : e.meaning = .starts task child) (g : TaskGroup) :
    Projection.attachChild e.id task g p = .ok () (p.modify task (.expanded g.tasks)) := by
  obtain ⟨t, htask, hterm, hsome⟩ := hp.exists_open_task? ha (HistoryEvent.refersTo_of_starts hm)
  have hsub := mt hsome.1 (ha.started_new task child hm)
  refine hp.wellIndexed.attachChild_of_some htask (TaskStatus.canMoveTo_running hterm) ?_ g
  exact Option.not_isSome_iff_eq_none.1 hsub

theorem after_starts (hp : p.Depicts x h subTasks) (ha : h.Admits e)
    (hm : e.meaning = .starts task child) :
    (p.modify task (.expanded (subTasks child))).Depicts x (h ++ [e]) subTasks := by
  constructor
  · exact hp.wellIndexed.after_modify fun _ => rfl
  · rw [History.portrait_append_of_starts hm (ha.started_new task child hm), ← hp.group_eq]
    rfl

end Depicts

end HistoryTree.Projection
