import HistoryTree.CommandLine.Report
import HistoryTree.Proofs.Task.Preorder
import Mathlib.Data.List.Forall2

/-!
# Reports that are read back

A report has a line for each task, in which nothing tells the name of the task from what stands
around it but its place: the name may have blanks and brackets in it, and look like a whole line.
Yet a report says one thing only.  As no line holds a line end, the text falls apart into its lines
(`unlines_injective`).  Before its first bracket a line holds blanks alone, so these tell the depth
of the task; the status takes two characters; and behind the last `#` of the line stands the id of
the task, in which no `#` is (`taskLine_injective`).  So the lines tell the outline of the tree, and
the outline tells the tree (`report_eq_iff`).
-/

namespace HistoryTree

open Text

/-- Event ids are told by their texts. -/
theorem EventId.text_injective {i j : EventId} (h : i.text = j.text) : i = j := by
  have hvalue : i.value.toInt = j.value.toInt := by
    unfold EventId.text at h
    exact decimalInt_injective (String.ofList_injective h)
  cases i
  cases j
  exact congrArg _ (Int64.toInt_inj.1 hvalue)

theorem EventId.not_mem_text {c : Char} (hminus : c ≠ '-') (hdigit : isDigit c = false)
    (i : EventId) : c ∉ i.text.toList := by
  intro hc
  rw [EventId.text, String.toList_ofList] at hc
  rcases isDigit_of_mem_decimalInt hc with h | h
  · exact hminus h
  · rw [hdigit] at h
    cases h

namespace CommandLine

/-! ## Lines -/

/-- Lines without line ends are told by the text that they make up. -/
theorem unlines_injective {lines lines' : List (List Char)} (hends : ∀ l ∈ lines, '\n' ∉ l)
    (hends' : ∀ l ∈ lines', '\n' ∉ l) (h : unlines lines = unlines lines') : lines = lines' := by
  have hflat := String.ofList_injective h
  clear h
  induction lines generalizing lines' with
  | nil =>
    cases lines' with
    | nil => rfl
    | cons l' rest' => simp at hflat
  | cons l rest ih =>
    cases lines' with
    | nil => simp at hflat
    | cons l' rest' =>
      rw [List.flatMap_cons, List.flatMap_cons, List.append_assoc, List.append_assoc] at hflat
      obtain ⟨rfl, hrest⟩ :=
        eq_of_append_first (hends l List.mem_cons_self) (hends' l' List.mem_cons_self) hflat
      rw [ih (fun k hk => hends k (List.mem_cons_of_mem l hk))
        (fun k hk => hends' k (List.mem_cons_of_mem l hk)) hrest]

theorem length_statusField (s : TaskStatus) : (statusField s).length = 2 := by
  cases s <;> rfl

/-- Statuses are told by their codes, filled up. -/
theorem statusField_injective {s t : TaskStatus} (h : statusField s = statusField t) : s = t := by
  cases s <;> cases t <;> first | rfl | exact absurd h (by decide)

/-- A line up to its last `#`, which the id follows. -/
theorem taskLine_eq (depth : Nat) (t : Task) :
    taskLine depth t
      = (List.replicate (2 * (depth + 1)) ' ' ++
          '[' :: (statusField t.status ++ ([']', ' '] ++ t.name.toList ++ [' ', '('])))
        ++ '#' :: (t.id.text.toList ++ [')']) := by
  simp [taskLine]

/-- A line tells everything that a walk tells of its task. -/
theorem taskLine_injective {depth depth' : Nat} {t t' : Task}
    (h : taskLine depth t = taskLine depth' t') :
    Task.Entry.of (depth, t) = Task.Entry.of (depth', t') := by
  have hsharp : ∀ i : EventId, '#' ∉ i.text.toList ++ [')'] := by
    intro i
    have hid : '#' ∉ i.text.toList := i.not_mem_text (by decide) (by decide)
    simp [hid]
  have hbracket : ∀ n : Nat, '[' ∉ List.replicate n ' ' := by
    intro n hmem
    exact absurd (List.eq_of_mem_replicate hmem) (by decide)
  rw [taskLine_eq, taskLine_eq] at h
  obtain ⟨hfront, hid⟩ := eq_of_append_last (hsharp t.id) (hsharp t'.id) h
  obtain ⟨hindent, hmiddle⟩ := eq_of_append_first (hbracket _) (hbracket _) hfront
  have hwidth : (statusField t.status).length = (statusField t'.status).length := by
    rw [length_statusField, length_statusField]
  obtain ⟨hstatus, hname⟩ := List.append_inj hmiddle hwidth
  have hdepth : 2 * (depth + 1) = 2 * (depth' + 1) := by
    simpa using congrArg List.length hindent
  have hname : t.name.toList = t'.name.toList :=
    List.append_cancel_left (List.append_cancel_right hname)
  have hid : t.id.text.toList = t'.id.text.toList := List.append_cancel_right hid
  rw [Task.Entry.of, Task.Entry.of, Task.Entry.mk.injEq]
  refine ⟨by omega, ?_, String.toList_inj.1 hname, statusField_injective hstatus⟩
  exact EventId.text_injective (String.toList_inj.1 hid)

/-- Lines tell the outline that they show. -/
theorem map_taskLine_injective {entries entries' : List (Nat × Task)}
    (h : entries.map (fun (depth, t) => taskLine depth t)
      = entries'.map fun (depth, t) => taskLine depth t) :
    entries.map Task.Entry.of = entries'.map .of := by
  rw [← List.forall₂_eq_eq_eq, List.forall₂_map_left_iff, List.forall₂_map_right_iff] at h ⊢
  exact h.imp fun _ _ => taskLine_injective

/-- The line of a task shows nothing but what a walk tells of it. -/
def entryLine (e : Task.Entry) : List Char := taskLine e.depth ⟨e.id, e.name, e.status, none⟩

/-! ## Reports -/

/-- A group whose ids and names have no line ends. -/
structure OneLined (g : TaskGroup) : Prop where
  id : '\n' ∉ g.execution.id.toList
  run : '\n' ∉ g.execution.run.toList
  name : ∀ t, Task.Occurs t g.tasks → '\n' ∉ t.name.toList

/-- The line of a task has no line end in it if its name has none. -/
theorem not_mem_taskLine {depth : Nat} {t : Task} (hname : '\n' ∉ t.name.toList) :
    '\n' ∉ taskLine depth t := by
  have hid : '\n' ∉ t.id.text.toList := t.id.not_mem_text (by decide) (by decide)
  have hstatus : '\n' ∉ statusField t.status := by
    cases t.status <;> decide
  have hindent : '\n' ∉ List.replicate (2 * (depth + 1)) ' ' := by
    intro hmem
    exact absurd (List.eq_of_mem_replicate hmem) (by decide)
  simp [taskLine, hname, hid, hstatus, hindent]

theorem not_mem_headLines {g : TaskGroup} (hid : '\n' ∉ g.execution.id.toList)
    (hrun : '\n' ∉ g.execution.run.toList) : ∀ l ∈ headLines g, '\n' ∉ l := by
  have hstatus : '\n' ∉ g.status.text.toList := by
    cases g.status <;> decide
  have htotal : '\n' ∉ decimal g.totalTasks := by
    intro hmem
    exact absurd (isDigit_of_mem_decimal hmem) (by decide)
  simp [headLines, Execution.toList_text, hid, hrun, hstatus, htotal]

/-- No line of the report of such a group holds a line end. -/
theorem OneLined.not_mem_reportLines {g : TaskGroup} (h : OneLined g) :
    ∀ l ∈ reportLines g, '\n' ∉ l := by
  intro l hl
  rcases List.mem_append.1 hl with hl | hl
  · exact not_mem_headLines h.id h.run l hl
  · obtain ⟨entry, hentry, rfl⟩ := List.mem_map.1 hl
    rw [TaskGroup.walk_eq_listings] at hentry
    exact not_mem_taskLine (h.name entry.2 (Task.occurs_of_mem_listings hentry))

/-- The lines of the tasks are told by the outline of the tree. -/
theorem map_taskLine_walk (g : TaskGroup) :
    g.walk.map (fun (depth, t) => taskLine depth t) = g.outline.map entryLine := by
  rw [TaskGroup.outline, List.map_map]
  rfl

/-- The number of tasks in the head of a report is that of the lines behind it. -/
theorem totalTasks_eq_length (g : TaskGroup) : g.totalTasks = g.outline.length := by
  rw [TaskGroup.totalTasks, TaskGroup.outline, List.length_map]

/-- Two groups without line ends in their ids and names are reported alike exactly if they are of
executions that are written alike, with the same status and the same tree, up to empty lists of
sub-tasks. -/
theorem report_eq_iff {g g' : TaskGroup} (h : OneLined g) (h' : OneLined g') :
    report g = report g' ↔
      g.execution.text = g'.execution.text ∧ g.status = g'.status ∧
        Task.prunedAll g.tasks = Task.prunedAll g'.tasks := by
  have houtline : g.outline = g'.outline ↔ Task.prunedAll g.tasks = Task.prunedAll g'.tasks := by
    rw [g.outline_eq, g'.outline_eq, Task.outline_eq_iff]
  rw [← houtline]
  constructor
  · intro heq
    have hlines : headLines g ++ _ = headLines g' ++ _ :=
      unlines_injective h.not_mem_reportLines h'.not_mem_reportLines heq
    obtain ⟨hhead, htasks⟩ := List.append_inj hlines rfl
    simp only [headLines, List.cons.injEq, List.append_cancel_left_eq, String.toList_inj] at hhead
    obtain ⟨hexecution, hstatus, -⟩ := hhead
    exact ⟨hexecution, GroupStatus.text_injective hstatus, map_taskLine_injective htasks⟩
  · rintro ⟨hexecution, hstatus, htree⟩
    have hhead : headLines g = headLines g' := by
      rw [headLines, headLines, hexecution, hstatus, totalTasks_eq_length, totalTasks_eq_length,
        htree]
    rw [report, report, reportLines, reportLines, hhead, map_taskLine_walk, map_taskLine_walk,
      htree]

/-- A payment of which nothing is known but that it was started, with a name that looks like a line
of a report. -/
def payment : TaskGroup :=
  ⟨⟨"a/b", "1"⟩, [⟨⟨2⟩, "[r ] Pay (#3)", .running, some []⟩], .running⟩

/-- The payment in another execution, whose id and run are divided elsewhere. -/
def paymentElsewhere : TaskGroup :=
  ⟨⟨"a", "b/1"⟩, [⟨⟨2⟩, "[r ] Pay (#3)", .running, none⟩], .running⟩

/-- The task for which the name of the payment could be taken. -/
def paymentTakenLiterally : TaskGroup := ⟨⟨"a/b", "1"⟩, [⟨⟨3⟩, "Pay", .running, none⟩], .running⟩

theorem oneLined_of_listings {g : TaskGroup} (hid : '\n' ∉ g.execution.id.toList)
    (hrun : '\n' ∉ g.execution.run.toList)
    (hname : ∀ entry ∈ Task.listings 0 g.tasks, '\n' ∉ entry.2.name.toList) : OneLined g where
  id := hid
  run := hrun
  name t ht := by
    obtain ⟨d, hd⟩ := Task.exists_mem_listings ht 0
    exact hname (d, t) hd

/-- What the report leaves open is where an execution id ends and whether an empty list of sub-tasks
is there; a name that looks like a line is not mistaken for one. -/
theorem payment_reported : OneLined payment ∧ OneLined paymentElsewhere ∧
    OneLined paymentTakenLiterally ∧ report payment = report paymentElsewhere ∧
    report payment ≠ report paymentTakenLiterally := by
  have h : OneLined payment := oneLined_of_listings (by decide) (by decide) (by decide)
  have h' : OneLined paymentElsewhere := oneLined_of_listings (by decide) (by decide) (by decide)
  have h'' : OneLined paymentTakenLiterally :=
    oneLined_of_listings (by decide) (by decide) (by decide)
  refine ⟨h, h', h'', (report_eq_iff h h').2 ⟨rfl, rfl, rfl⟩, ?_⟩
  intro heq
  have htasks := ((report_eq_iff h h'').1 heq).2.2
  cases htasks

end CommandLine

end HistoryTree
