import HistoryTree.Proofs.Expansion.Acceptance
import HistoryTree.Proofs.Task.Walk
import Mathlib.Algebra.BigOperators.Group.List.Basic
import Mathlib.Data.List.Perm.Basic

/-!
# The tasks below the tasks of a history

The sub-tasks in the group that a history depicts are those of its child executions, once for each
child that an event starts: tasks are created in one order and start their children in another,
but each child belongs to one task (`History.Coherent.perm_starts`).  So the tasks of a kind in the
whole tree are those that the history itself creates and those below its children
(`History.Coherent.tally_portrait`).
-/

namespace HistoryTree

namespace History

variable {h : History} {x : Execution} {subTasks : Execution → List Task}

theorem children_eq (h : History) : h.children = h.starts.map Prod.snd := by
  have hchild : ∀ e : HistoryEvent, e.kind.child? = e.start?.map Prod.snd := by
    intro e
    rw [e.child?_eq, HistoryEvent.start?]
    cases e.meaning <;> rfl
  rw [children, starts, List.map_filterMap]
  exact List.filterMap_congr fun e _ => hchild e

/-- The tasks with a child execution are those that an event says they start, each with its own. -/
theorem Coherent.perm_starts (hc : h.Coherent) :
    (h.createdIds.filterMap fun id => (h.childOf? id).map (id, ·)).Perm h.starts := by
  have hinj : ∀ id id' : EventId, ∀ s : EventId × Execution,
      s ∈ (h.childOf? id).map (id, ·) → s ∈ (h.childOf? id').map (id', ·) → id = id' := by
    intro id id' s hs hs'
    obtain ⟨c, -, rfl⟩ := Option.map_eq_some_iff.1 hs
    obtain ⟨c', -, heq⟩ := Option.map_eq_some_iff.1 hs'
    exact (congrArg Prod.fst heq).symm
  refine (List.perm_ext_iff_of_nodup (hc.created_once.filterMap hinj) hc.started_once.of_map).2 ?_
  rintro ⟨id, c⟩
  simp only [List.mem_filterMap, Option.map_eq_some_iff, Prod.mk.injEq]
  constructor
  · rintro ⟨id, -, c, hchild, rfl, rfl⟩
    obtain ⟨before, after, hsplit, -⟩ := List.lookup_eq_some_iff.1 hchild
    rw [hsplit]
    simp
  · intro hstart
    obtain ⟨e, he, hm⟩ := mem_starts_iff.1 hstart
    exact ⟨id, hc.mem_createdIds he (HistoryEvent.refersTo_of_starts hm), c,
      hc.childOf?_of_starts he hm, rfl, rfl⟩

/-- In a coherent history, the children are those of the tasks, each of one task. -/
theorem Coherent.perm_children (hc : h.Coherent) :
    (h.created.filterMap (h.childOf? ·.id)).Perm h.children := by
  have hperm := hc.perm_starts.map Prod.snd
  rw [List.map_filterMap, createdIds, List.filterMap_map, ← children_eq] at hperm
  have hsame : ∀ t : Task, h.childOf? t.id
      = ((h.childOf? t.id).map (t.id, ·)).map Prod.snd := by
    intro t
    cases h.childOf? t.id <;> rfl
  rwa [List.filterMap_congr fun t _ => hsame t]

theorem sum_map_getD {α β : Type} (l : List α) (f : α → Option β) (g : β → Nat) :
    (l.map fun a => ((f a).map g).getD 0).sum = ((l.filterMap f).map g).sum := by
  induction l with
  | nil => rfl
  | cons a l ih =>
    rw [List.map_cons, List.sum_cons, ih, List.filterMap_cons]
    cases f a with
    | none => simp
    | some b => simp

/-- The tasks of a kind are those at the top and, for each child, those of the child. -/
theorem Coherent.tally_portrait (hc : h.Coherent) (p : Task → Bool) :
    Task.tally p (h.portrait x subTasks).tasks = (h.portrait x subTasks).tasks.countP p
      + (h.children.map (Task.tally p <| subTasks ·)).sum := by
  have hbelow : ∀ t : Task, Task.tally p (h.taskNow subTasks t).children
      = ((h.childOf? t.id).map (Task.tally p <| subTasks ·)).getD 0 := by
    intro t
    show Task.tally p (((h.childOf? t.id).map subTasks).getD []) = _
    cases h.childOf? t.id <;> rfl
  have hsum : ((h.portrait x subTasks).tasks.map (Task.tally p ·.children)).sum = (h.created.map
      fun t => ((h.childOf? t.id).map (Task.tally p <| subTasks ·)).getD 0).sum := by
    show ((h.created.map (h.taskNow subTasks)).map _).sum = _
    rw [List.map_map]
    exact congrArg List.sum (List.map_congr_left fun t _ => hbelow t)
  rw [Task.tally_eq, hsum, sum_map_getD, (hc.perm_children.map _).sum_eq]

/-- As many tasks have sub-tasks as events start a child execution. -/
theorem Coherent.countP_subTasks (hc : h.Coherent) :
    (h.portrait x subTasks).tasks.countP (·.subTasks.isSome) = h.children.length := by
  have hsome : ∀ t : Task, (h.taskNow subTasks t).subTasks.isSome = (h.childOf? t.id).isSome := by
    intro t
    show ((h.childOf? t.id).map subTasks).isSome = _
    rw [Option.isSome_map]
  show (h.created.map (h.taskNow subTasks)).countP _ = _
  rw [List.countP_map, ← hc.perm_children.length_eq, List.length_filterMap_eq_countP]
  exact List.countP_congr fun t _ => by rw [Function.comp_apply, hsome t]

end History

end HistoryTree
