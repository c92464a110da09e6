import HistoryTree.Proofs.Expansion.Subtrees
import HistoryTree.Proofs.Expansion.Success
import HistoryTree.Proofs.History.Interleaving
import HistoryTree.Proofs.Projection.Alignment
import HistoryTree.Proofs.Task.Walk

/-!
# Which tasks have sub-tasks

The source may answer differently each time, so the histories of a run are those that it delivers
in the course of the requests (`Source.Delivers`).  An execution `GrowsTo` a tree from them if on
each level there is one task for each event of a history that creates one, and a task has sub-tasks
exactly if an event of the same history starts a child execution for it; what lies there grew in
the same way.  Applying one event keeps to that (`Projection.GrownBy.of_applied`,
`Projection.GrownBy.attach`), and so does a whole expansion (`Session.grows_expand`).

Nothing looks at what kind of event created the task.  Main statement:
`Session.subTasks_named_by_starts`.
-/

namespace HistoryTree

/-! ## Delivered histories -/

/-- A source delivers a history of an execution in the course of these requests. -/
def Source.Delivers {σ : Type} (source : Source σ) (s : σ) (asked : List Execution) (x : Execution)
    (h : History) : Prop :=
  ∃ before after, asked = before ++ x :: after ∧
    (source x (source.after s before)).1.drain = .history h

namespace Source.Delivers

variable {σ : Type} {source : Source σ} {s : σ} {asked more : List Execution} {x : Execution}
  {h : History}

/-- What a source delivers, it delivers within more requests. -/
theorem append (hx : source.Delivers s asked x h) (more : List Execution) :
    source.Delivers s (asked ++ more) x h := by
  obtain ⟨before, after, rfl, hdrain⟩ := hx
  exact ⟨before, after ++ more, by simp, hdrain⟩

theorem of_after (hx : source.Delivers (source.after s asked) more x h) :
    source.Delivers s (asked ++ more) x h := by
  obtain ⟨before, after, rfl, hdrain⟩ := hx
  refine ⟨asked ++ before, after, by simp, ?_⟩
  rw [Source.after_append]
  exact hdrain

/-- A source of fixed answers delivers these answers. -/
theorem answer_eq {answers : Execution → Except SourceError History}
    (hx : source.Delivers s asked x h) (hs : source.Serves s answers) : answers x = .ok h := by
  obtain ⟨before, after, rfl, hdrain⟩ := hx
  rw [hs before x] at hdrain
  cases hanswer : answers x with
  | ok h' =>
    rw [hanswer] at hdrain
    cases hdrain
    rfl
  | error e =>
    rw [hanswer] at hdrain
    cases hdrain

end Source.Delivers

/-! ## Trees that grow from histories -/

/-- A task has sub-tasks exactly if an event of a history starts a child execution for it, and they
are what such a child grows to. -/
structure History.Expands (h : History) (grows : Execution → List Task → Prop) (t : Task) :
    Prop where
  isSome_iff : t.subTasks.isSome = true ↔ ∃ c, (t.id, c) ∈ h.starts
  grown : ∀ ts, t.subTasks = some ts → ∃ c, (t.id, c) ∈ h.starts ∧ grows c ts

/-- An execution grows to tasks with less than so many levels of sub-tasks. -/
def Expansion.GrowsTo (delivered : Execution → History → Prop) :
    Nat → Execution → List Task → Prop
  | 0, _, _ => False
  | levels + 1, x, ts => ∃ h, delivered x h ∧ ts.map (·.id) = h.createdIds ∧ h.createdIds.Nodup ∧
      (h.starts.map (·.1)).Nodup ∧ ∀ t ∈ ts, h.Expands (GrowsTo delivered levels) t

/-- The types of the events that create tasks. -/
def EventType.creating : List EventType := [activityScheduled, childInitiated, timerStarted]

/-- The types of events that create tasks are those whose meaning it is. -/
theorem HistoryEvent.type_mem_creating_iff {e : HistoryEvent} :
    e.type ∈ EventType.creating ↔ ∃ t, e.meaning = .creates t := by
  obtain ⟨_, _, kind⟩ := e
  cases kind <;> simp [type, EventKind.type, EventType.creating, meaning]

namespace History

variable {h : History} {e : HistoryEvent} {t u : Task} {x c : Execution} {task : EventId}
  {grows grows' : Execution → List Task → Prop} {ts : List Task}

/-- A history starts a child for a task exactly if one of its events does. -/
theorem exists_childStarted_iff :
    (∃ c, (task, c) ∈ h.starts) ↔ ∃ e ∈ h, ∃ c, e.kind = .childStarted task c := by
  simp only [mem_starts_iff, HistoryEvent.meaning_eq_starts_iff]
  constructor
  · rintro ⟨c, e, he, hkind⟩
    exact ⟨e, he, c, hkind⟩
  · rintro ⟨e, he, c, hkind⟩
    exact ⟨c, e, he, hkind⟩

/-- No two events create the same task. -/
theorem eq_of_creates (hnodup : h.createdIds.Nodup) {i : HistoryEvent} (he : e ∈ h) (hi : i ∈ h)
    (hme : e.meaning = .creates t) (hmi : i.meaning = .creates u) (hid : i.id = e.id) : i = e := by
  obtain ⟨before, after, rfl⟩ := List.append_of_mem he
  have hids : createdIds (before ++ e :: after)
      = createdIds before ++ e.id :: createdIds after := by
    rw [createdIds_append, ← List.singleton_append, createdIds_append,
      createdIds_singleton_of_creates hme, List.singleton_append]
  rw [hids, List.nodup_middle, List.nodup_cons, List.mem_append] at hnodup
  have hmem : ∀ {h' : History}, i ∈ h' → e.id ∈ h'.createdIds := by
    intro h' hi
    exact mem_createdIds_iff.2
      ⟨i, hi, u, hmi, by rw [(HistoryEvent.of_meaning_creates hmi).1, hid]⟩
  rcases List.mem_append.1 hi with hi | hi
  · exact absurd (.inl (hmem hi)) hnodup.1
  · rcases List.mem_cons.1 hi with rfl | hi
    · rfl
    · exact absurd (.inr (hmem hi)) hnodup.1

theorem createdIds_append_of_not_creates (hm : ∀ t, e.meaning ≠ .creates t) :
    createdIds (h ++ [e]) = h.createdIds := by
  rw [createdIds, created_append, created_singleton_of_not_creates hm, List.append_nil]
  rfl

theorem starts_singleton_of_starts (hm : e.meaning = .starts task c) :
    starts [e] = [(task, c)] := by
  simp [starts, HistoryEvent.start?_eq_some_iff.2 hm]

theorem starts_singleton_of_not_starts (hm : ∀ task c, e.meaning ≠ .starts task c) :
    starts [e] = [] := by
  refine List.eq_nil_iff_forall_not_mem.2 fun start hstart => ?_
  obtain ⟨e', he', hm'⟩ := mem_starts_iff.1 hstart
  rw [List.mem_singleton.1 he'] at hm'
  exact hm _ _ hm'

namespace Expands

theorem mono (ht : h.Expands grows t) (hgrows : ∀ c ts, grows c ts → grows' c ts) :
    h.Expands grows' t where
  isSome_iff := ht.isSome_iff
  grown ts hts := by
    obtain ⟨c, hc, hgrown⟩ := ht.grown ts hts
    exact ⟨c, hc, hgrows c ts hgrown⟩

/-- It is a matter of the id and the sub-tasks of a task only. -/
theorem congr (ht : h.Expands grows t) (hid : u.id = t.id) (hsub : u.subTasks = t.subTasks) :
    h.Expands grows u where
  isSome_iff := by rw [hid, hsub, ht.isSome_iff]
  grown ts hts := by
    rw [hid]
    exact ht.grown ts (hsub ▸ hts)

/-- An event that starts no child execution for the task changes nothing for it. -/
theorem append (ht : h.Expands grows t) (he : ∀ c, (t.id, c) ∉ starts [e]) :
    (h ++ [e]).Expands grows t where
  isSome_iff := by simp [ht.isSome_iff, starts_append, he]
  grown ts hts := by
    obtain ⟨c, hc, hgrown⟩ := ht.grown ts hts
    exact ⟨c, by rw [starts_append]; exact List.mem_append_left _ hc, hgrown⟩

/-- A task without sub-tasks for which no child is started is as the history says. -/
theorem of_none (hsub : t.subTasks = none) (hstarts : ∀ c, (t.id, c) ∉ h.starts) :
    h.Expands grows t where
  isSome_iff := by simp [hsub, hstarts]
  grown ts hts := by
    rw [hsub] at hts
    cases hts

/-- A task is as the history says once the tasks of the child that is started for it hang below it.
-/
theorem of_started (hstart : (t.id, c) ∈ h.starts) (hgrows : grows c ts) :
    h.Expands grows (t.expanded ts) where
  isSome_iff := ⟨fun _ => ⟨c, hstart⟩, fun _ => rfl⟩
  grown := by
    rintro _ ⟨⟩
    exact ⟨c, hstart, hgrows⟩

end Expands

end History

theorem Expansion.GrowsTo.mono {delivered delivered' : Execution → History → Prop}
    (hdelivered : ∀ y h, delivered y h → delivered' y h) {levels : Nat} {x : Execution}
    {ts : List Task} (hx : GrowsTo delivered levels x ts) : GrowsTo delivered' levels x ts := by
  induction levels generalizing x ts with
  | zero => exact hx
  | succ levels ih =>
    obtain ⟨h, hh, hids, hnodup, honce, hexpands⟩ := hx
    exact ⟨h, hdelivered x h hh, hids, hnodup, honce,
      fun t ht => (hexpands t ht).mono fun c ts => ih⟩

/-- What stands at any depth of a tree that grew is a task of a delivered history. -/
theorem Expansion.GrowsTo.of_mem_listings {delivered : Execution → History → Prop}
    {levels depth d : Nat} {x : Execution} {ts : List Task} {t : Task}
    (hx : GrowsTo delivered levels x ts) (ht : (d, t) ∈ Task.listings depth ts) :
    ∃ y h, delivered y h ∧ t.id ∈ h.createdIds ∧ h.createdIds.Nodup ∧
      (t.subTasks.isSome = true ↔ ∃ c, (t.id, c) ∈ h.starts) := by
  induction levels generalizing depth x ts with
  | zero => exact absurd hx not_false
  | succ levels ih =>
    obtain ⟨h, hh, hids, hnodup, -, hexpands⟩ := hx
    obtain ⟨u, hu, hentry | hdeeper⟩ := Task.mem_listings_iff.1 ht
    · obtain ⟨rfl, rfl⟩ : d = depth ∧ t = u := by simpa using hentry
      exact ⟨x, h, hh, hids ▸ List.mem_map_of_mem hu, hnodup, (hexpands t hu).isSome_iff⟩
    · cases hsub : u.subTasks with
      | none =>
        rw [Task.children, hsub] at hdeeper
        exact absurd hdeeper List.not_mem_nil
      | some us =>
        rw [Task.children, hsub, Option.getD_some] at hdeeper
        obtain ⟨c, -, hgrown⟩ := (hexpands u hu).grown us hsub
        exact ih hgrown hdeeper

/-! ## One event -/

namespace Projection

open Registry

/-- The tasks of a projection are those that a history creates, and they have the sub-tasks that it
starts for them. -/
structure GrownBy (grows : Execution → List Task → Prop) (h : History) (p : Projection) : Prop where
  aligned : p.Aligned h.createdIds
  started_created : ∀ task c, (task, c) ∈ h.starts → task ∈ h.createdIds
  started_once : (h.starts.map (·.1)).Nodup
  expands : ∀ t ∈ p.group.tasks, h.Expands grows t

variable {grows grows' : Execution → List Task → Prop} {h : History} {e : HistoryEvent}
  {p q : Projection} {t : Task} {task : EventId} {c : Execution} {slot : Nat} {ts : List Task}

/-- A task that is put in the place of another comes with those that have other ids. -/
theorem WellIndexed.eq_or_ne_of_mem_setTask (hp : p.WellIndexed) {u v : Task}
    (ht : p.group.tasks[slot]? = some t) (hu : u ∈ (p.setTask slot v).group.tasks) :
    u = v ∨ u ∈ p.group.tasks ∧ u.id ≠ t.id := by
  obtain ⟨i, hi⟩ := List.getElem?_of_mem hu
  have hset : (p.group.tasks.set slot v)[i]? = some u := hi
  by_cases hslot : slot = i
  · subst hslot
    rw [List.getElem?_set_self (List.getElem?_eq_some_iff.1 ht).1] at hset
    exact .inl (Option.some.inj hset).symm
  · rw [List.getElem?_set_ne hslot] at hset
    exact .inr ⟨List.mem_of_getElem? hset, fun hid => hslot (hp.slot_unique ht hset hid.symm)⟩

namespace GrownBy

theorem start (x : Execution) : (Projection.start x).GrownBy grows [] where
  aligned := aligned_start x
  started_created := nofun
  started_once := List.nodup_nil
  expands := nofun

theorem mono (hp : p.GrownBy grows h) (hgrows : ∀ c ts, grows c ts → grows' c ts) :
    p.GrownBy grows' h where
  aligned := hp.aligned
  started_created := hp.started_created
  started_once := hp.started_once
  expands t ht := (hp.expands t ht).mono hgrows

/-- An event that starts no child execution leaves sub-tasks as they are. -/
theorem append (hp : p.GrownBy grows h) (hm : ∀ task c, e.meaning ≠ .starts task c)
    (hq : q.Aligned (History.createdIds (h ++ [e])))
    (hexpands : ∀ t ∈ q.group.tasks, h.Expands grows t) : q.GrownBy grows (h ++ [e]) := by
  have hnone := History.starts_singleton_of_not_starts hm
  have hstarts : History.starts (h ++ [e]) = h.starts := by
    rw [History.starts_append, hnone, List.append_nil]
  refine ⟨hq, ?_, ?_, ?_⟩
  · intro task c hstart
    rw [History.createdIds_append]
    exact List.mem_append_left _ (hp.started_created task c (hstarts ▸ hstart))
  · rw [hstarts]
    exact hp.started_once
  · intro t ht
    exact (hexpands t ht).append (by simp [hnone])

/-- A task that is new has no sub-tasks, and no event before it could start a child for it. -/
theorem of_creates (hp : p.GrownBy grows h) (hm : e.meaning = .creates t)
    (hnew : p.slot? t.id = none) : (p.push t).GrownBy grows (h ++ [e]) := by
  obtain ⟨hid, -, hsub⟩ := HistoryEvent.of_meaning_creates hm
  refine hp.append (by simp [hm]) ?_ ?_
  · rw [History.createdIds_append, History.createdIds_singleton_of_creates hm, ← hid]
    exact hp.aligned.push hnew
  · intro u hu
    rcases List.mem_append.1 hu with hu | hu
    · exact hp.expands u hu
    · rw [List.mem_singleton.1 hu]
      refine .of_none hsub fun c hstart => ?_
      obtain ⟨slot, hslot⟩ := hp.aligned.slot?_iff_mem.2 (hp.started_created t.id c hstart)
      rw [hnew] at hslot
      cases hslot

/-- A task that is moved keeps its sub-tasks. -/
theorem of_moves (hp : p.GrownBy grows h) {next : TaskStatus} (hm : e.meaning = .moves task next)
    (hadvance : advance e.id task next p = .ok () q) : q.GrownBy grows (h ++ [e]) := by
  obtain ⟨slot, t, t', hfound, hmove, rfl⟩ := update_eq_ok_iff.1 hadvance
  obtain ⟨-, rfl⟩ := Operation.of_advance_ok hmove
  have ht := (resolve?_iff.1 hfound).2
  refine hp.append (by simp [hm]) ?_ ?_
  · rw [History.createdIds_append_of_not_creates (by simp [hm])]
    exact hp.aligned.setTask (fun t => { t with status := next }) (fun _ => rfl) ht
  · intro u hu
    rcases List.mem_or_eq_of_mem_set hu with hu | rfl
    · exact hp.expands u hu
    · exact (hp.expands t (List.mem_of_getElem? ht)).congr rfl rfl

/-- An event that is applied for good keeps to the history. -/
theorem of_applied (hp : p.GrownBy grows h) (hq : standard.dispatch e p = .ok .applied q) :
    q.GrownBy grows (h ++ [e]) := by
  have hindex := hp.aligned.wellIndexed
  cases hm : e.meaning with
  | creates t =>
    have hid := (HistoryEvent.of_meaning_creates hm).1
    cases htask : p.group.task? e.id with
    | some u =>
      rw [dispatch_creates_of_some hindex hm htask] at hq
      cases hq
    | none =>
      rw [dispatch_creates_of_none hindex hm htask] at hq
      cases hq
      exact hp.of_creates hm (hid ▸ hindex.slot?_of_none htask)
  | moves task next =>
    rw [dispatch_moves_eq hm, bind_eq_ok_iff] at hq
    obtain ⟨_, p', hadvance, hq⟩ := hq
    cases hq
    exact hp.of_moves hm hadvance
  | starts task c =>
    -- a child execution that may start is asked for, and is not done with yet
    cases htask : p.group.task? task with
    | none =>
      rw [dispatch_starts_of_none hindex hm htask] at hq
      cases hq
    | some t =>
      rw [dispatch_starts_of_some hindex hm htask] at hq
      split at hq
      · cases hq
      · cases hq
  | movesGroup s =>
    rw [dispatch_movesGroup hm] at hq
    split at hq
    · cases hq
      refine hp.append (by simp [hm]) ?_ hp.expands
      rw [History.createdIds_append_of_not_creates (by simp [hm])]
      exact ⟨hindex.after_withStatus s, hp.aligned.ids_eq⟩
    · cases hq
  | nothing =>
    rw [dispatch_nothing hm] at hq
    cases hq
    refine hp.append (by simp [hm]) ?_ hp.expands
    rw [History.createdIds_append_of_not_creates (by simp [hm])]
    exact hp.aligned

/-- The tasks of a child lie below the task that the event names then, and no other task is
touched. -/
theorem attach (hp : p.GrownBy grows h) (hm : e.meaning = .starts task c)
    (hfound : p.resolve? task = some (slot, t)) (hcheck : Rule.checkChildStart t = .ok ())
    (hgrows : grows c ts) : (p.setTask slot (t.expanded ts)).GrownBy grows (h ++ [e]) := by
  obtain ⟨ht, rfl⟩ := hp.aligned.wellIndexed.resolve?_eq_some_iff.1 hfound
  have hmem : t ∈ p.group.tasks := List.mem_of_getElem? ht
  have hnone := (open_of_checked hcheck).2
  have hnew : ∀ c', (t.id, c') ∉ h.starts := by
    intro c' hstart
    have hsome := (hp.expands t hmem).isSome_iff.2 ⟨c', hstart⟩
    rw [hnone] at hsome
    cases hsome
  have hstart := History.starts_singleton_of_starts hm
  have hids : History.createdIds (h ++ [e]) = h.createdIds :=
    History.createdIds_append_of_not_creates (by simp [hm])
  refine ⟨?_, ?_, ?_, ?_⟩
  · rw [hids]
    exact hp.aligned.setTask (.expanded ts) (fun _ => rfl) ht
  · intro task c' hstarts
    rw [hids]
    rw [History.starts_append, hstart, List.mem_append, List.mem_singleton] at hstarts
    rcases hstarts with hstarts | heq
    · exact hp.started_created task c' hstarts
    · cases heq
      rw [← hp.aligned.ids_eq]
      exact List.mem_map_of_mem hmem
  · rw [History.nodup_starts_append_singleton]
    refine ⟨hp.started_once, ?_⟩
    intro task c' hm'
    rw [hm] at hm'
    cases hm'
    simpa using hnew
  · intro u hu
    rcases hp.aligned.wellIndexed.eq_or_ne_of_mem_setTask ht hu with rfl | ⟨hu, hid⟩
    · exact .of_started (by simp [History.starts_append, hstart]) hgrows
    · refine (hp.expands u hu).append fun c' => ?_
      simp [hstart, hid]

end GrownBy

end Projection

/-! ## Whole expansions -/

namespace Session

open Expansion (GrowsTo applyAll expand)

variable {σ : Type} {source : Source σ} {limits : Limits} {watching : Bool} {s s' : Session σ}
  {levels : Nat} {chain before : List Execution} {x : Execution} {h h' : History}
  {p q : Projection} {g : TaskGroup} {visit : Execution → Run σ TaskGroup}

/-- A fetch that succeeds brings the history that the source delivers, and is on record. -/
theorem fetch_of_ok (hx : fetch source limits watching x s = .ok h s') :
    (source x s.source).1.drain = .history h ∧ s' = s.afterAsking source [x] := by
  rw [fetch] at hx
  cases hsource : source x s.source with
  | mk reading next =>
    rw [hsource] at hx
    have hafter : s.afterAsking source [x]
        = { s with source := next, fetched := s.fetched ++ [x] } := by
      simp [afterAsking, Source.after, hsource]
    cases hdrain : reading.drain with
    | history h' =>
      simp only [hdrain] at hx
      cases hx
      exact ⟨rfl, hafter.symm⟩
    | failed e =>
      simp only [hdrain] at hx
      cases hx
    | stalled =>
      simp only [hdrain] at hx
      exact absurd hx (wait_ne_ok _ _ _ _ _ _)
    | cancelling =>
      simp only [hdrain] at hx
      exact absurd hx (wait_ne_ok _ _ _ _ _ _)

/-- Children grow from what the source delivers while they are projected. -/
def Grows (source : Source σ) (levels : Nat) (visit : Execution → Run σ TaskGroup) : Prop :=
  ∀ c s g s', visit c s = .ok g s' → ∃ asked, s' = s.afterAsking source asked ∧
    GrowsTo (source.Delivers s.source asked) levels c g.tasks

/-- The induction is on the history.  The requests before it are kept, since tasks from before may
have grown from what they delivered. -/
theorem grownBy_of_applyAll (hvisit : Grows source levels visit)
    (hp : p.GrownBy (GrowsTo (source.Delivers s.source before) levels) h)
    (hq : applyAll .standard visit h' p (s.afterAsking source before) = .ok q s') :
    ∃ asked, s' = s.afterAsking source (before ++ asked) ∧
      q.GrownBy (GrowsTo (source.Delivers s.source (before ++ asked)) levels) (h ++ h') := by
  induction h' generalizing h p before with
  | nil =>
    cases hq
    refine ⟨[], ?_, ?_⟩
    · rw [List.append_nil]
    · rw [List.append_nil, List.append_nil]
      exact hp
  | cons e rest ih =>
    have hhistory : h ++ e :: rest = (h ++ [e]) ++ rest := by simp
    rw [applyAll] at hq
    cases hdispatch : Registry.standard.dispatch e p with
    | error cause p' =>
      rw [hdispatch] at hq
      cases hq
    | ok outcome p' =>
      rw [hdispatch] at hq
      cases outcome with
      | applied =>
        rw [hhistory]
        exact ih (hp.of_applied hdispatch) hq
      | expandChild task c =>
        obtain ⟨hm, rfl, slot, t, hfound, hcheck⟩ := Registry.of_standard_expandChild hdispatch
        obtain ⟨g, t', hg, hq⟩ := bind_eq_ok_iff.1 hq
        obtain ⟨asked, rfl, hgrows⟩ := hvisit c _ g t' hg
        rw [Projection.attachChild_of_checked hfound hcheck g] at hq
        rw [← afterAsking_append] at hq
        have hgrows' : GrowsTo (source.Delivers s.source (before ++ asked)) levels c g.tasks :=
          hgrows.mono fun y h hy => hy.of_after
        have hp' : p'.GrownBy (GrowsTo (source.Delivers s.source (before ++ asked)) levels) h :=
          hp.mono fun c ts hc => hc.mono fun y h hy => hy.append asked
        obtain ⟨more, hs', hq'⟩ := ih (hp'.attach hm hfound hcheck hgrows') hq
        rw [List.append_assoc] at hs' hq'
        exact ⟨asked ++ more, hs', hhistory ▸ hq'⟩

/-- The induction is on the levels that are left. -/
theorem grows_expand (source : Source σ) (limits : Limits) (watching : Bool) (levels : Nat)
    (chain : List Execution) :
    Grows source levels (expand .standard limits (fetch source limits watching) levels chain) := by
  induction levels generalizing chain with
  | zero =>
    intro x s g s' hg
    cases hg
  | succ levels ih =>
    intro x s g s' hg
    have hpassed : (do
        let events ← fetch source limits watching x
        let p ← applyAll .standard
          (expand .standard limits (fetch source limits watching) levels (x :: chain)) events
          (.start x)
        return p.group : Run σ TaskGroup) s = .ok g s' := by
      rw [expand] at hg
      split at hg
      · obtain ⟨_, _, hthrow, -⟩ := bind_eq_ok_iff.1 hg
        cases hthrow
      · exact hg
    obtain ⟨h, t, hfetch, happly⟩ := bind_eq_ok_iff.1 hpassed
    obtain ⟨hdrain, rfl⟩ := fetch_of_ok hfetch
    obtain ⟨p, t, happly, hreturn⟩ := bind_eq_ok_iff.1 happly
    cases hreturn
    obtain ⟨asked, hs', hp⟩ := grownBy_of_applyAll (h := []) (ih (x :: chain)) (.start x) happly
    rw [List.nil_append] at hp
    refine ⟨[x] ++ asked, hs', h, ⟨[], asked, rfl, hdrain⟩, hp.aligned.ids_eq, ?_, hp.started_once,
      hp.expands⟩
    rw [← hp.aligned.ids_eq]
    exact hp.aligned.wellIndexed.nodup

/-- The tree of a projection grows from the histories that the source delivers in the course of it:
below the task that an event starts a child execution for, and nowhere else, lie the tasks of that
child.  So every task of the tree was created by an event of its history, and has sub-tasks exactly
if an event of that history starts a child execution for it.  Any task can be named there; it is
one that an event initiated as a child execution if only such tasks are named. -/
theorem subTasks_named_by_starts (hg : project source .standard limits x s = .ok g s') :
    ∃ asked, s' = s.afterAsking source asked ∧
      GrowsTo (source.Delivers s.source asked) (limits.maxDepth + 1) x g.tasks ∧
      ∀ depth t, (depth, t) ∈ g.walk → ∃ y h, source.Delivers s.source asked y h ∧
        (∃ e ∈ h, e.id = t.id ∧ e.type ∈ EventType.creating) ∧
        (t.subTasks.isSome = true ↔ ∃ e ∈ h, ∃ c, e.kind = .childStarted t.id c) ∧
        (t.subTasks.isSome = true →
          (∀ e ∈ h, ∀ task c, e.kind = .childStarted task c →
            ∃ i ∈ h, i.id = task ∧ i.type = .childInitiated) →
          ∀ e ∈ h, e.id = t.id → e.type ∈ EventType.creating → e.type = .childInitiated) := by
  obtain ⟨asked, hs', hgrows⟩ :=
    grows_expand source limits false (limits.maxDepth + 1) [] x s g s' hg
  refine ⟨asked, hs', hgrows, ?_⟩
  intro depth t ht
  rw [TaskGroup.walk_eq_listings] at ht
  obtain ⟨y, h, hh, hid, hnodup, hstarts⟩ := hgrows.of_mem_listings ht
  rw [History.exists_childStarted_iff] at hstarts
  refine ⟨y, h, hh, ?_, hstarts, ?_⟩
  · obtain ⟨e, he, first, hm, hfirst⟩ := History.mem_createdIds_iff.1 hid
    refine ⟨e, he, ?_, HistoryEvent.type_mem_creating_iff.2 ⟨first, hm⟩⟩
    rw [← hfirst, (HistoryEvent.of_meaning_creates hm).1]
  · intro hsome honly e he hid htype
    obtain ⟨started, hstarted, c, hkind⟩ := hstarts.1 hsome
    obtain ⟨i, hi, hiid, hitype⟩ := honly started hstarted t.id c hkind
    obtain ⟨first, hm⟩ := HistoryEvent.type_mem_creating_iff.1 htype
    have hicreates : i.type ∈ EventType.creating := by simp [hitype, EventType.creating]
    obtain ⟨first', hm'⟩ := HistoryEvent.type_mem_creating_iff.1 hicreates
    rw [← History.eq_of_creates hnodup he hi hm hm' (hiid.trans hid.symm), hitype]

end Session

namespace Memory

/-- In the histories of the trip, children are started only for tasks that were created for them. -/
theorem trip_starts_initiated {y : Execution} {h : History} (hy : trip.answers y = .ok h) :
    ∀ e ∈ h, ∀ task c, e.kind = .childStarted task c →
      ∃ i ∈ h, i.id = task ∧ i.type = .childInitiated := by
  simp only [answers, trip, history?_insert] at hy
  split_ifs at hy <;> cases hy <;>
    simp [HistoryEvent.of, HistoryEvent.type, EventKind.type]

/-- Whatever has sub-tasks on a trip was initiated as a child execution. -/
theorem trip_subTasks_initiated :
    ∃ g s', Session.project fetch .standard {} ⟨"trip", "1"⟩ (.start trip) = .ok g s' ∧
      ∃ asked, s' = (Session.start trip).afterAsking fetch asked ∧
        Expansion.GrowsTo (Source.Delivers fetch trip asked) 17 ⟨"trip", "1"⟩ g.tasks ∧
        ∀ depth t, (depth, t) ∈ g.walk → t.subTasks.isSome = true →
          ∃ y h, Source.Delivers fetch trip asked y h ∧
            ∃ e ∈ h, e.id = t.id ∧ e.type = .childInitiated := by
  obtain ⟨g, s', hg⟩ : ∃ g s', Session.project fetch .standard {} ⟨"trip", "1"⟩ (.start trip)
      = .ok g s' := ⟨_, _, rfl⟩
  obtain ⟨asked, hs', hgrows, hwalk⟩ := Session.subTasks_named_by_starts hg
  refine ⟨g, s', hg, asked, hs', hgrows, fun depth t ht hsome => ?_⟩
  obtain ⟨y, h, hh, ⟨e, he, hid, htype⟩, -, hinitiated⟩ := hwalk depth t ht
  have honly := trip_starts_initiated (hh.answer_eq trip.serves)
  exact ⟨y, h, hh, e, he, hid, hinitiated hsome honly e he hid htype⟩

/-- The histories of an errand that names an activity and a timer as the tasks of its children. -/
def errand : Memory :=
  (empty.insert ⟨"ride", "1"⟩ [.of ⟨1⟩ (.activityScheduled "acme.Drive")]).insert ⟨"errand", "1"⟩
    [.of ⟨1⟩ (.activityScheduled "acme.Fetch"), .of ⟨2⟩ (.timerStarted none),
      .of ⟨3⟩ (.childStarted ⟨1⟩ ⟨"ride", "1"⟩), .of ⟨4⟩ (.childStarted ⟨2⟩ ⟨"ride", "1"⟩)]

/-- The errand is projected, with sub-tasks below the activity and below the timer, and no event of
it initiates a child execution. -/
theorem errand_below_activity :
    ∃ g s' h, Session.project fetch .standard {} ⟨"errand", "1"⟩ (.start errand) = .ok g s' ∧
      errand.answers ⟨"errand", "1"⟩ = .ok h ∧
      g.tasks.map (fun t => (t.id, t.subTasks.isSome)) = [(⟨1⟩, true), (⟨2⟩, true)] ∧
      h.map (fun e => (e.id, e.type)) = [(⟨1⟩, .activityScheduled), (⟨2⟩, .timerStarted),
        (⟨3⟩, .childStarted), (⟨4⟩, .childStarted)] :=
  ⟨_, _, _, rfl, rfl, rfl, rfl⟩

end Memory

end HistoryTree
