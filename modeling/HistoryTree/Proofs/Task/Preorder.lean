import HistoryTree.Proofs.Task.Walk

/-!
# The walk as an iterator, and what it tells

A walk can be taken one task at a time: a `Task.Walker` keeps the tasks still to visit on a stack,
takes the last one off, and puts its sub-tasks there in reverse, so that the first of them is next.
Whatever it starts with, it comes to an end, and what it yields on the way is the pre-order listing
(`Task.Walker.yields_iff`).

What is told of each task on the way, its depth with its id, name and status, is the outline of a
tree.  A deeper entry belongs to the last one before it that is less deep, so the outline tells the
whole tree, except whether a task has no sub-tasks or none yet (`Task.outline_eq_iff`).
-/

namespace HistoryTree

namespace Task

variable {t : Task} {ts us : List Task} {depth d : Nat}

/-! ## Lists of trees -/

theorem sizes_cons (t : Task) (ts : List Task) :
    sizes (t :: ts) = sizes t.children + 1 + sizes ts := by
  rw [sizes, size_eq]

/-- To show something of all lists of trees, show it of a list from its tail and from the sub-tasks
of its head. -/
@[elab_as_elim]
theorem forest_induction {P : List Task → Prop} (nil : P [])
    (cons : ∀ t ts, P t.children → P ts → P (t :: ts)) (ts : List Task) : P ts := by
  induction hsize : sizes ts using Nat.strongRecOn generalizing ts with
  | _ n ih =>
    cases ts with
    | nil => exact nil
    | cons t ts =>
      rw [sizes_cons] at hsize
      exact cons t ts (ih _ (by omega) t.children rfl) (ih _ (by omega) ts rfl)

theorem listings_cons (depth : Nat) (t : Task) (ts : List Task) :
    listings depth (t :: ts)
      = (depth, t) :: (listings (depth + 1) t.children ++ listings depth ts) := by
  rw [listings, listing_eq, List.cons_append]

/-- A listing has a line for each task. -/
theorem length_listings (depth : Nat) (ts : List Task) :
    (listings depth ts).length = sizes ts := by
  induction ts using forest_induction generalizing depth with
  | nil => rfl
  | cons t ts below rest =>
    rw [listings_cons, List.length_cons, List.length_append, below, rest, sizes_cons]
    omega

/-- A task stands in a list of trees, at any depth. -/
inductive Occurs (t : Task) : List Task → Prop
  | here {ts : List Task} : t ∈ ts → Occurs t ts
  | under {u : Task} {ts : List Task} : u ∈ ts → Occurs t u.children → Occurs t ts

theorem Occurs.cons (h : Occurs t ts) (u : Task) : Occurs t (u :: ts) := by
  cases h with
  | here hmem => exact .here (List.mem_cons_of_mem u hmem)
  | under hmem h => exact .under (List.mem_cons_of_mem u hmem) h

/-- Only tasks of the trees are listed. -/
theorem occurs_of_mem_listings (h : (d, t) ∈ listings depth ts) : Occurs t ts := by
  induction ts using forest_induction generalizing depth with
  | nil => cases h
  | cons u ts below rest =>
    rw [listings_cons, List.mem_cons, List.mem_append] at h
    rcases h with h | h | h
    · cases h
      exact .here List.mem_cons_self
    · exact .under List.mem_cons_self (below h)
    · exact (rest h).cons u

/-- Every task of the trees is listed, at some depth. -/
theorem exists_mem_listings (h : Occurs t ts) (depth : Nat) : ∃ d, (d, t) ∈ listings depth ts := by
  induction h generalizing depth with
  | here hmem => exact ⟨depth, mem_listings_iff.2 ⟨t, hmem, .inl rfl⟩⟩
  | under hmem _ ih =>
    obtain ⟨d, hd⟩ := ih (depth + 1)
    exact ⟨d, mem_listings_iff.2 ⟨_, hmem, .inr hd⟩⟩

theorem isTerminal_iff : t.isTerminal = true ↔ t.status ≠ .scheduled ∧ t.status ≠ .running := by
  rw [isTerminal]
  cases t.status <;> decide

/-! ## One task at a time -/

/-- A walk that has come so far: the tasks that are still to be visited, each with its depth, and
the next one last. -/
structure Walker where
  stack : List (Nat × Task)

namespace Walker

variable {w w' : Walker} {out : List (Nat × Task)}

/-- The walk through a list of trees, before its first task. -/
def start (ts : List Task) : Walker := ⟨ts.reverse.map (0, ·)⟩

/-- Takes a task off the end of the stack and puts its sub-tasks there, the first of them last. -/
def next? (w : Walker) : Option ((Nat × Task) × Walker) :=
  match w.stack.getLast? with
  | none => none
  | some (depth, t) =>
    some ((depth, t), ⟨w.stack.dropLast ++ t.children.reverse.map (depth + 1, ·)⟩)

/-- A walk yields some tasks, each with its depth, and is then at its end. -/
inductive Yields : Walker → List (Nat × Task) → Prop
  | done {w : Walker} : w.next? = none → Yields w []
  | visit {w w' : Walker} {entry : Nat × Task} {out : List (Nat × Task)} :
      w.next? = some (entry, w') → Yields w' out → Yields w (entry :: out)

/-- The tasks that are still to be visited, in the order in which their trees are. -/
def pending (w : Walker) : List (Nat × Task) := w.stack.reverse

theorem pending_start (ts : List Task) : (start ts).pending = ts.map (0, ·) := by
  simp [pending, start, List.map_reverse]

theorem next?_of_nil (h : w.pending = []) : w.next? = none := by
  have hstack : w.stack = [] := List.reverse_eq_nil_iff.1 h
  simp [next?, hstack]

/-- The next task is the first one pending, and its sub-tasks come in front of the others. -/
theorem next?_of_cons {rest : List (Nat × Task)} (h : w.pending = (depth, t) :: rest) :
    ∃ w', w.next? = some ((depth, t), w') ∧
      w'.pending = t.children.map (depth + 1, ·) ++ rest := by
  have hstack : w.stack = rest.reverse ++ [(depth, t)] := by
    rw [← List.reverse_cons, ← h, pending, List.reverse_reverse]
  refine ⟨⟨rest.reverse ++ t.children.reverse.map (depth + 1, ·)⟩, ?_, ?_⟩
  · simp [next?, hstack]
  · simp [pending, List.map_reverse]

/-- The walker yields what is pending and what lies below it. -/
theorem yields_walkFrom (w : Walker) : w.Yields (walkFrom w.pending) := by
  induction h : w.pending using walkFrom.induct generalizing w with
  | case1 =>
    rw [walkFrom]
    exact .done (next?_of_nil h)
  | case2 depth t rest ih =>
    obtain ⟨w', hnext, hpending⟩ := next?_of_cons h
    rw [walkFrom]
    exact .visit hnext (ih w' hpending)

/-- A walker yields one list only. -/
theorem Yields.unique {out' : List (Nat × Task)} (h : w.Yields out) (h' : w.Yields out') :
    out = out' := by
  induction h generalizing out' with
  | done hnext =>
    cases h' with
    | done _ => rfl
    | visit hnext' _ =>
      rw [hnext] at hnext'
      cases hnext'
  | visit hnext _ ih =>
    cases h' with
    | done hnext' =>
      rw [hnext] at hnext'
      cases hnext'
    | visit hnext' hrest =>
      rw [hnext] at hnext'
      cases hnext'
      rw [ih hrest]

/-- A walk comes to an end, and yields the listing of the trees. -/
theorem yields_iff (ts : List Task) (out : List (Nat × Task)) :
    (start ts).Yields out ↔ out = listings 0 ts := by
  have hyields : (start ts).Yields (listings 0 ts) := by
    have h := yields_walkFrom (start ts)
    rwa [pending_start, walkFrom_eq, flatMap_listing] at h
  constructor
  · intro h
    exact h.unique hyields
  · rintro rfl
    exact hyields

end Walker

/-! ## Outlines -/

/-- What a walk tells of a task. -/
structure Entry where
  depth : Nat
  id : EventId
  name : String
  status : TaskStatus
  deriving DecidableEq, Repr

/-- What a walk tells of a task that it meets at a depth. -/
def Entry.of (visited : Nat × Task) : Entry :=
  ⟨visited.1, visited.2.id, visited.2.name, visited.2.status⟩

/-- The outline of a list of trees. -/
def outline (depth : Nat) (ts : List Task) : List Entry := (listings depth ts).map .of

theorem outline_nil (depth : Nat) : outline depth [] = [] := rfl

theorem outline_cons (depth : Nat) (t : Task) (ts : List Task) :
    outline depth (t :: ts)
      = .of (depth, t) :: (outline (depth + 1) t.children ++ outline depth ts) := by
  rw [outline, listings_cons, List.map_cons, List.map_append]
  rfl

/-- The sub-tasks of a task, if there are any. -/
def ofChildren : List Task → Option (List Task)
  | [] => none
  | t :: ts => some (t :: ts)

mutual

/-- A tree in which no task has an empty list of sub-tasks: such a list is left out. -/
def pruned : Task → Task
  | ⟨id, name, status, none⟩ => ⟨id, name, status, none⟩
  | ⟨id, name, status, some ts⟩ => ⟨id, name, status, ofChildren (prunedAll ts)⟩

/-- A list of trees without empty lists of sub-tasks. -/
def prunedAll : List Task → List Task
  | [] => []
  | t :: ts => pruned t :: prunedAll ts

end

theorem pruned_eq (t : Task) :
    t.pruned = ⟨t.id, t.name, t.status, ofChildren (prunedAll t.children)⟩ := by
  obtain ⟨_, _, _, _ | ts⟩ := t
  · simp [pruned, children, prunedAll, ofChildren]
  · simp [pruned, children]

theorem children_pruned (t : Task) : t.pruned.children = prunedAll t.children := by
  rw [pruned_eq, children]
  cases prunedAll t.children <;> rfl

/-- Where no task has an empty list of sub-tasks, nothing is left out. -/
theorem prunedAll_eq_self (h : ∀ t, Occurs t ts → t.subTasks ≠ some []) : prunedAll ts = ts := by
  induction ts using forest_induction with
  | nil => rfl
  | cons t ts below rest =>
    have hbelow : prunedAll t.children = t.children :=
      below fun u hu => h u (.under List.mem_cons_self hu)
    have hself : t.pruned = t := by
      have hne := h t (.here List.mem_cons_self)
      rw [pruned_eq, hbelow]
      obtain ⟨_, _, _, _ | _ | _⟩ := t
      · rfl
      · exact absurd rfl hne
      · rfl
    rw [prunedAll, hself, rest fun u hu => h u (hu.cons t)]

/-- Empty lists of sub-tasks are not seen on a walk. -/
theorem outline_prunedAll (depth : Nat) (ts : List Task) :
    outline depth (prunedAll ts) = outline depth ts := by
  induction ts using forest_induction generalizing depth with
  | nil => rfl
  | cons t ts below rest =>
    have hentry : Entry.of (depth, t.pruned) = Entry.of (depth, t) := by
      rw [pruned_eq]
      rfl
    rw [prunedAll, outline_cons, outline_cons, hentry, children_pruned, below, rest]

/-- An outline goes on with something less deep, if at all. -/
def EndsAbove (depth : Nat) (more : List Entry) : Prop := ∀ e ∈ more.head?, e.depth < depth

/-- Behind an outline, what ends above it is still told apart. -/
theorem EndsAbove.outline_append {more : List Entry} (h : EndsAbove depth more) (ts : List Task) :
    EndsAbove (depth + 1) (outline depth ts ++ more) := by
  cases ts with
  | nil =>
    intro e he
    exact Nat.lt_succ_of_lt (h e he)
  | cons t ts =>
    rw [outline_cons]
    rintro e ⟨⟩
    exact Nat.lt_succ_self depth

/-- An outline that goes on with something less deep tells where a list of trees ends, and the
trees up to there. -/
theorem prunedAll_eq_of_outline {more more' : List Entry} (hmore : EndsAbove depth more)
    (hmore' : EndsAbove depth more') (h : outline depth ts ++ more = outline depth us ++ more') :
    prunedAll ts = prunedAll us ∧ more = more' := by
  induction ts using forest_induction generalizing depth us more more' with
  | nil =>
    cases us with
    | nil => exact ⟨rfl, h⟩
    | cons u us =>
      rw [outline_nil, List.nil_append, outline_cons, List.cons_append] at h
      rw [h] at hmore
      exact absurd (hmore _ rfl) (Nat.lt_irrefl depth)
  | cons t ts below rest =>
    cases us with
    | nil =>
      rw [outline_nil, List.nil_append, outline_cons, List.cons_append] at h
      rw [← h] at hmore'
      exact absurd (hmore' _ rfl) (Nat.lt_irrefl depth)
    | cons u us =>
      rw [outline_cons, outline_cons, List.cons_append, List.cons_append, List.append_assoc,
        List.append_assoc] at h
      obtain ⟨hentry, htail⟩ := List.cons.inj h
      obtain ⟨hchildren, htail⟩ :=
        below (hmore.outline_append ts) (hmore'.outline_append us) htail
      obtain ⟨hrest, hmore⟩ := rest hmore hmore' htail
      simp only [Entry.of, Entry.mk.injEq, true_and] at hentry
      obtain ⟨hid, hname, hstatus⟩ := hentry
      refine ⟨?_, hmore⟩
      rw [prunedAll, prunedAll, pruned_eq t, pruned_eq u, hid, hname, hstatus, hchildren, hrest]

/-- The outline of trees tells the trees, up to empty lists of sub-tasks. -/
theorem outline_eq_iff (depth : Nat) (ts us : List Task) :
    outline depth ts = outline depth us ↔ prunedAll ts = prunedAll us := by
  constructor
  · intro h
    have hnil : EndsAbove depth [] := nofun
    refine (prunedAll_eq_of_outline hnil hnil ?_).1
    rw [h]
  · intro h
    rw [← outline_prunedAll, h, outline_prunedAll]

end Task

namespace TaskGroup

variable (g : TaskGroup)

/-- What the walk through a tree tells of its tasks. -/
def outline : List Task.Entry := g.walk.map .of

theorem outline_eq : g.outline = Task.outline 0 g.tasks := by
  rw [outline, walk_eq_listings, Task.outline]

theorem totalTasks_eq_sizes : g.totalTasks = Task.sizes g.tasks := by
  rw [totalTasks, walk_eq_listings, Task.length_listings]

theorem isSettled_iff :
    g.isSettled = true ↔
      ∀ t, Task.Occurs t g.tasks → t.status ≠ .scheduled ∧ t.status ≠ .running := by
  rw [isSettled, walk_eq_listings, List.all_eq_true]
  constructor
  · intro h t ht
    obtain ⟨d, hd⟩ := Task.exists_mem_listings ht 0
    exact Task.isTerminal_iff.1 (h (d, t) hd)
  · intro h entry hentry
    exact Task.isTerminal_iff.2 (h entry.2 (Task.occurs_of_mem_listings hentry))

/-- The walk through a tree comes to an end and yields its tasks in pre-order, so it counts all of
them, and finds the tree settled exactly if no task is left to be done.  Two trees of which it
tells the same are the same, up to empty lists of sub-tasks. -/
theorem walk_is_preorder :
    (∀ out, (Task.Walker.start g.tasks).Yields out ↔ out = Task.listings 0 g.tasks) ∧
    g.walk = Task.listings 0 g.tasks ∧
    g.totalTasks = Task.sizes g.tasks ∧
    (g.isSettled = true ↔
      ∀ t, Task.Occurs t g.tasks → t.status ≠ .scheduled ∧ t.status ≠ .running) ∧
    ∀ g' : TaskGroup,
      g.outline = g'.outline ↔ Task.prunedAll g.tasks = Task.prunedAll g'.tasks := by
  refine ⟨Task.Walker.yields_iff g.tasks, walk_eq_listings g, totalTasks_eq_sizes g,
    isSettled_iff g, ?_⟩
  intro g'
  rw [outline_eq, outline_eq, Task.outline_eq_iff]

end TaskGroup

end HistoryTree
