import HistoryTree.Task
import Mathlib.Algebra.GroupWithZero.Nat

/-!
# The walk through a tree

`TaskGroup.walk` keeps the tasks still to visit on a stack.  What it yields is the pre-order
listing of the tree, which can be read off by recursion: every task is followed by the listing of
its sub-tasks, one level deeper (`TaskGroup.walk_eq_listings`).  Counting along the walk is then
counting level by level (`Task.tally_eq`), and a tree in which sub-tasks are nested only so many
times has no task deeper than that (`Task.Nests.of_mem_listings`).
-/

namespace HistoryTree

namespace Task

mutual

/-- The tasks of a tree with their depths, a task before its sub-tasks. -/
def listing (depth : Nat) : Task → List (Nat × Task)
  | ⟨id, name, status, none⟩ => [(depth, ⟨id, name, status, none⟩)]
  | ⟨id, name, status, some ts⟩ =>
    (depth, ⟨id, name, status, some ts⟩) :: listings (depth + 1) ts

/-- The listings of a list of trees, one after the other. -/
def listings (depth : Nat) : List Task → List (Nat × Task)
  | [] => []
  | t :: ts => listing depth t ++ listings depth ts

end

variable {t : Task} {ts : List Task} {depth n : Nat}

theorem listing_eq (depth : Nat) (t : Task) :
    t.listing depth = (depth, t) :: listings (depth + 1) t.children := by
  obtain ⟨id, name, status, _ | ts⟩ := t
  · rfl
  · rfl

theorem mem_listings_iff {entry : Nat × Task} :
    entry ∈ listings depth ts ↔
      ∃ t ∈ ts, entry = (depth, t) ∨ entry ∈ listings (depth + 1) t.children := by
  induction ts with
  | nil => simp [listings]
  | cons t ts ih => simp [listings, listing_eq, ih, or_assoc]

/-! ## The stack -/

theorem flatMap_listing (depth : Nat) (ts : List Task) :
    (ts.map (depth, ·)).flatMap (fun entry => entry.2.listing entry.1) = listings depth ts := by
  induction ts with
  | nil => rfl
  | cons t ts ih => rw [List.map_cons, List.flatMap_cons, ih, listings]

/-- A stack of trees is walked one tree after the other, each to its end. -/
theorem walkFrom_eq (stack : List (Nat × Task)) :
    walkFrom stack = stack.flatMap fun entry => entry.2.listing entry.1 := by
  induction stack using walkFrom.induct with
  | case1 => rw [walkFrom, List.flatMap_nil]
  | case2 depth t rest ih =>
    rw [walkFrom, ih, List.flatMap_append, flatMap_listing, List.flatMap_cons, listing_eq,
      List.cons_append]

/-! ## Counting -/

/-- The number of tasks of a kind in a list of trees. -/
def tally (p : Task → Bool) (ts : List Task) : Nat := (listings 0 ts).countP (p ·.2)

mutual

theorem map_snd_listing (depth depth' : Nat) :
    ∀ t : Task, (t.listing depth).map Prod.snd = (t.listing depth').map Prod.snd
  | ⟨_, _, _, none⟩ => rfl
  | ⟨_, _, _, some ts⟩ => by
    rw [listing, listing, List.map_cons, List.map_cons,
      map_snd_listings (depth + 1) (depth' + 1) ts]

/-- The depth does not matter for the order in which tasks are listed. -/
theorem map_snd_listings (depth depth' : Nat) :
    ∀ ts : List Task, (listings depth ts).map Prod.snd = (listings depth' ts).map Prod.snd
  | [] => rfl
  | t :: ts => by
    rw [listings, listings, List.map_append, List.map_append, map_snd_listing depth depth' t,
      map_snd_listings depth depth' ts]

end

variable {p : Task → Bool}

theorem countP_listings (p : Task → Bool) (depth : Nat) (ts : List Task) :
    (listings depth ts).countP (p ·.2) = tally p ts := by
  have hmap : ∀ d, (listings d ts).countP (p ·.2) = ((listings d ts).map Prod.snd).countP p := by
    intro d
    rw [List.countP_map]
    rfl
  rw [tally, hmap, hmap, map_snd_listings depth 0 ts]

theorem tally_cons :
    tally p (t :: ts) = (if p t then 1 else 0) + tally p t.children + tally p ts := by
  rw [tally, listings, listing_eq, List.countP_append, List.countP_cons, countP_listings p 1,
    countP_listings p 0]
  simp only [Nat.add_comm]

/-- The tasks of a kind are those at the top and those among the sub-tasks. -/
theorem tally_eq (p : Task → Bool) (ts : List Task) :
    tally p ts = ts.countP p + (ts.map (tally p ·.children)).sum := by
  induction ts with
  | nil => rfl
  | cons t ts ih =>
    rw [tally_cons, ih, List.countP_cons, List.map_cons, List.sum_cons]
    omega

/-! ## Depth -/

/-- Whether a list of trees has less than so many levels of sub-tasks. -/
def Nests : Nat → List Task → Prop
  | 0, _ => False
  | n + 1, ts => ∀ t ∈ ts, ∀ us, t.subTasks = some us → Nests n us

/-- No task is deeper than the levels of sub-tasks are many, and the deepest have none. -/
theorem Nests.of_mem_listings {d : Nat} (h : Nests n ts) (ht : (d, t) ∈ listings depth ts) :
    d < depth + n ∧ (d + 1 = depth + n → t.subTasks = none) := by
  induction n generalizing depth ts with
  | zero => exact absurd h not_false
  | succ n ih =>
    obtain ⟨u, hu, hentry | hdeeper⟩ := mem_listings_iff.1 ht
    · obtain ⟨rfl, rfl⟩ : d = depth ∧ t = u := by simpa using hentry
      refine ⟨by omega, ?_⟩
      intro hd
      obtain rfl : n = 0 := by omega
      cases hsub : t.subTasks with
      | none => rfl
      | some us => exact absurd (h t hu us hsub) not_false
    · cases hsub : u.subTasks with
      | none =>
        rw [children, hsub] at hdeeper
        exact absurd hdeeper List.not_mem_nil
      | some us =>
        rw [children, hsub, Option.getD_some] at hdeeper
        obtain ⟨hlt, hdeepest⟩ := ih (h u hu us hsub) hdeeper
        exact ⟨by omega, fun hd => hdeepest (by omega)⟩

end Task

namespace TaskGroup

variable {g : TaskGroup}

/-- The walk yields the pre-order listing of the tree. -/
theorem walk_eq_listings (g : TaskGroup) : g.walk = Task.listings 0 g.tasks := by
  rw [walk, Task.walkFrom_eq, Task.flatMap_listing]

/-- A walk meets as many tasks of a kind as the tree has. -/
theorem countP_walk (p : Task → Bool) (g : TaskGroup) :
    g.walk.countP (p ·.2) = Task.tally p g.tasks := by
  rw [walk_eq_listings, Task.countP_listings]

/-- The number of tasks is the tally of all. -/
theorem totalTasks_eq_tally (g : TaskGroup) :
    g.totalTasks = Task.tally (fun _ => true) g.tasks := by
  rw [totalTasks, ← countP_walk, List.countP_true]

end TaskGroup

end HistoryTree
