import HistoryTree.Proofs.Expansion.Contents

/-!
# Subtrees

The tasks below a task that started a child execution are those of that execution on its own.
`Expansion.Reaches` follows the child starts of a run from one execution to the next, with the
tasks that start them on the way, and `Task.under?` goes the same way down a tree.  Both lead to
the same place (`Trace.under?_of_reaches`), and what lies there is what a projection of its own
leads to, which has more levels left and no ancestors (`Session.subtrees_projected_alone`).
-/

namespace HistoryTree

/-- The trees at the end of a way down a list of trees; the way is told by the ids of the tasks
on it. -/
def Task.under? : List Task → List EventId → Option (List Task)
  | ts, [] => some ts
  | ts, id :: way => do
    let t ← ts.find? (·.id = id)
    let subTasks ← t.subTasks
    under? subTasks way

/-- The events of a run lead from an execution below a chain of ancestors to another one, with
the chain above it there and the tasks that start one child after the other. -/
inductive Expansion.Reaches (answers : Execution → Except SourceError History) :
    List Execution → Execution → List EventId → List Execution → Execution → Prop
  | refl (chain : List Execution) (x : Execution) : Reaches answers chain x [] chain x
  | start {chain chain' : List Execution} {x c y : Execution} {h : History} {e : HistoryEvent}
      {task : EventId} {way : List EventId} : answers x = .ok h → e ∈ h →
      e.kind = .childStarted task c → Reaches answers (x :: chain) c way chain' y →
      Reaches answers chain x (task :: way) chain' y

namespace History

variable {h : History} {e : HistoryEvent} {t u : Task} {x c : Execution} {task : EventId}
  {subTasks : Execution → List Task}

/-- The tasks of a coherent history are told by their ids. -/
theorem Coherent.eq_of_id_eq (hc : h.Coherent) (ht : t ∈ (h.portrait x subTasks).tasks)
    (hu : u ∈ (h.portrait x subTasks).tasks) (hid : u.id = t.id) : u = t := by
  have hids : (h.portrait x subTasks).tasks.map (·.id) = h.createdIds := by
    show (h.created.map (h.taskNow subTasks)).map (·.id) = h.created.map (·.id)
    rw [List.map_map]
    rfl
  exact List.inj_on_of_nodup_map (hids ▸ hc.created_once) hu ht hid

/-- Below the task that starts a child execution lie the tasks of that child. -/
theorem Coherent.find?_of_started (hc : h.Coherent) (he : e ∈ h)
    (hkind : e.kind = .childStarted task c) :
    ∃ t, (h.portrait x subTasks).tasks.find? (·.id = task) = some t ∧
      t.subTasks = some (subTasks c) := by
  have hm : e.meaning = .starts task c := HistoryEvent.meaning_eq_starts_iff.2 hkind
  have hid : task ∈ h.createdIds := hc.mem_createdIds he (HistoryEvent.refersTo_of_starts hm)
  obtain ⟨t, -, rfl, htask⟩ : ∃ t ∈ h.created, t.id = task ∧
      (h.portrait x subTasks).task? task = some (h.taskNow subTasks t) :=
    exists_task?_portrait hid
  refine ⟨h.taskNow subTasks t, htask, ?_⟩
  show (h.childOf? t.id).map subTasks = _
  rw [hc.childOf?_of_starts he hm, Option.map_some]

theorem mem_children_of_started (he : e ∈ h) (hkind : e.kind = .childStarted task c) :
    c ∈ h.children :=
  List.mem_filterMap.2 ⟨e, he, by rw [hkind]; rfl⟩

end History

namespace Trace

open Expansion (below Reaches)

variable {limits : Limits} {answers : Execution → Except SourceError History}
  {chain chain' : List Execution} {x y c : Execution} {way : List EventId} {task : EventId}
  {h : History} {e : HistoryEvent} {g : TaskGroup}

/-- Every child execution that a projected execution starts is projected below it, and its tasks
lie below the one task that started it. -/
theorem subTasks_of_started (hg : (below .standard limits (ask answers) chain x).result = .ok g)
    (hanswer : answers x = .ok h) (he : e ∈ h) (hkind : e.kind = .childStarted task c) :
    ∃ t g', g.tasks.find? (·.id = task) = some t ∧ (∀ u ∈ g.tasks, u.id = task → u = t) ∧
      t.subTasks = some g'.tasks ∧
      (below .standard limits (ask answers) (x :: chain) c).result = .ok g' := by
  obtain ⟨-, hc, hchildren, rfl⟩ := (below_eq_ok_iff hanswer).1 hg
  obtain ⟨g', hg'⟩ := hchildren c (History.mem_children_of_started he hkind)
  obtain ⟨t, hfind, hsub⟩ := hc.find?_of_started he hkind
  have hid : t.id = task := by simpa using List.find?_some hfind
  refine ⟨t, g', hfind, ?_, ?_, hg'⟩
  · intro u hu huid
    exact hc.eq_of_id_eq (List.mem_of_find?_eq_some hfind) hu (huid.trans hid.symm)
  · rw [hsub, tasksOf_of_ok hg']

/-- What is reached below an execution is projected there, and its tasks are found on the way
down the tree. -/
theorem under?_of_reaches (hreach : Reaches answers chain x way chain' y)
    (hg : (below .standard limits (ask answers) chain x).result = .ok g) :
    ∃ g', (below .standard limits (ask answers) chain' y).result = .ok g' ∧
      Task.under? g.tasks way = some g'.tasks := by
  induction hreach generalizing g with
  | refl chain x => exact ⟨g, hg, rfl⟩
  | start hanswer he hkind _ ih =>
    obtain ⟨t, g₁, hfind, -, hsub, hg₁⟩ := subTasks_of_started hg hanswer he hkind
    obtain ⟨g', hg', hunder⟩ := ih hg₁
    refine ⟨g', hg', ?_⟩
    rw [Task.under?, hfind, Option.bind_eq_bind, Option.bind_some, hsub, Option.bind_eq_bind,
      Option.bind_some, hunder]

end Trace

namespace Session

variable {σ : Type} {source : Source σ} {answers : Execution → Except SourceError History}
  {limits : Limits} {s s' : Session σ} {chain : List Execution} {x y c : Execution}
  {way : List EventId} {task : EventId} {h : History} {e : HistoryEvent} {g : TaskGroup}

/-- Wherever in a run an event starts a child execution, the sub-tasks of its task are those to
which the child is projected at that place, and also on its own. -/
theorem subtrees_projected_alone (hs : source.Serves s.source answers)
    (hg : project source .standard limits x s = .ok g s')
    (hreach : Expansion.Reaches answers [] x way chain y) (hanswer : answers y = .ok h)
    (he : e ∈ h) (hkind : e.kind = .childStarted task c) :
    ∃ ts t subTasks, Task.under? g.tasks way = some ts ∧
      ts.find? (·.id = task) = some t ∧ (∀ u ∈ ts, u.id = task → u = t) ∧
      t.subTasks = some subTasks ∧
      ProjectsTo source answers limits (y :: chain) c subTasks ∧
      ∀ s₁ : Session σ, source.Serves s₁.source answers →
        ∃ g₁ s₂, project source .standard limits c s₁ = .ok g₁ s₂ ∧ g₁.tasks = subTasks := by
  rw [project, Expansion.project_eq_below, below_eq_replay hs, replay_eq_ok_iff] at hg
  obtain ⟨g₀, hg₀, hunder⟩ := Trace.under?_of_reaches hreach hg.1
  obtain ⟨t, g₁, hfind, honly, hsub, hg₁⟩ := Trace.subTasks_of_started hg₀ hanswer he hkind
  have halone : ProjectsTo source answers limits [] c g₁.tasks := by
    refine projectsTo_of_trace ?_
    rw [Trace.below_of_subset hg₁ (List.nil_subset _) (Nat.zero_le _), hg₁]
  exact ⟨g₀.tasks, t, g₁.tasks, hunder, hfind, honly, hsub, projectsTo_of_trace hg₁, halone⟩

end Session

namespace Memory

/-- The histories of a trip, of its flight, and of the seat that the flight reserves. -/
def trip : Memory :=
  ((empty.insert ⟨"seat", "1"⟩ [.of ⟨1⟩ (.activityScheduled "acme.Reserve")]).insert
    ⟨"flight", "1"⟩
    [.of ⟨1⟩ (.childInitiated "acme.Seat"), .of ⟨2⟩ (.childStarted ⟨1⟩ ⟨"seat", "1"⟩)]).insert
    ⟨"trip", "1"⟩
    [.of ⟨7⟩ (.childInitiated "acme.Flight"), .of ⟨8⟩ (.childStarted ⟨7⟩ ⟨"flight", "1"⟩)]

/-- The seat, two levels below the trip, is projected to the tasks that hang below the flight. -/
theorem trip_seat_projected_alone :
    ∃ g s', Session.project fetch .standard {} ⟨"trip", "1"⟩ (.start trip) = .ok g s' ∧
      ∃ ts t subTasks, Task.under? g.tasks [⟨7⟩] = some ts ∧
        ts.find? (·.id = ⟨1⟩) = some t ∧ (∀ u ∈ ts, u.id = ⟨1⟩ → u = t) ∧
        t.subTasks = some subTasks ∧
        Session.ProjectsTo fetch trip.answers {} [⟨"flight", "1"⟩, ⟨"trip", "1"⟩] ⟨"seat", "1"⟩
          subTasks ∧
        ∀ s₁ : Session Memory, Source.Serves fetch s₁.source trip.answers →
          ∃ g₁ s₂, Session.project fetch .standard {} ⟨"seat", "1"⟩ s₁ = .ok g₁ s₂ ∧
            g₁.tasks = subTasks := by
  have hreach : Expansion.Reaches trip.answers [] ⟨"trip", "1"⟩ [⟨7⟩] [⟨"trip", "1"⟩]
      ⟨"flight", "1"⟩ :=
    .start rfl (List.mem_cons_of_mem _ (List.mem_singleton_self _)) rfl (.refl _ _)
  refine ⟨_, _, rfl, ?_⟩
  exact Session.subtrees_projected_alone (s := .start trip) trip.serves rfl hreach rfl
    (List.mem_cons_of_mem _ (List.mem_singleton_self _)) rfl

end Memory

end HistoryTree
