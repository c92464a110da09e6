import HistoryTree.Proofs.Json.Records
import HistoryTree.Proofs.Task.Walk
import HistoryTree.Task.Codec

/-!
# Trees written and read back

A tree is what its written form reads as, as long as the form nests no deeper than a reader goes,
and is refused as malformed beyond that (`TaskGroup.decode_written`).  Each layer of tasks takes
two levels: a reader for tasks that is given the levels it may open goes down as far as these
reach, and no farther (`Task.readerOfDepth_ofValue`).
-/

namespace HistoryTree

open Json Json.Reader

/-! ## Ids and statuses -/

theorem EventId.reader_ofInt (levels : Nat) (i : EventId) :
    EventId.reader levels (Tree.ofValue (.int i.value.toInt)) = .ok i := by
  rw [EventId.reader, int64_ofValue]
  rfl

theorem TaskStatus.reader_ofValue (levels : Nat) (s : TaskStatus) :
    reader levels (Tree.ofValue (.string s.text)) = .ok s := by
  cases levels <;> cases s <;> rfl

theorem GroupStatus.reader_ofValue (levels : Nat) (s : GroupStatus) :
    reader levels (Tree.ofValue (.string s.text)) = .ok s := by
  cases levels <;> cases s <;> rfl

/-! ## Tasks -/

namespace Task

variable {subTask : Reader Task}

theorem readerWith_none (levels : Nat) (id : EventId) (name : String) (status : TaskStatus) :
    readerWith subTask (levels + 1) (Tree.ofValue (toValue ⟨id, name, status, none⟩))
      = .ok ⟨id, name, status, none⟩ := by
  have hrow : Row.Reads (columns subTask levels)
      [("id", Tree.ofValue (.int id.value.toInt)), ("name", Tree.ofValue (.string name)),
        ("status", Tree.ofValue (.string status.text))] (id, name, status, none, ()) := by
    refine Row.reads_present rfl (EventId.reader_ofInt levels id) (by simp) ?_
    refine Row.reads_present rfl (text_ofValue levels name) (by simp) ?_
    refine Row.reads_present rfl (TaskStatus.reader_ofValue levels status) (by simp) ?_
    exact Row.reads_absent rfl (by simp) Row.reads_nil
  exact record_of_reads hrow (by simp [columns])

theorem readerWith_some (levels : Nat) (id : EventId) (name : String) (status : TaskStatus)
    (ts : List Task) :
    readerWith subTask (levels + 1) (Tree.ofValue (toValue ⟨id, name, status, some ts⟩))
      = (Reader.list subTask levels (Tree.ofValue (.array (toValues ts)))).map
          fun us => ⟨id, name, status, some us⟩ := by
  have hoptional :
      Reader.optional (Reader.list subTask) levels (Tree.ofValue (.array (toValues ts)))
        = (Reader.list subTask levels (Tree.ofValue (.array (toValues ts)))).map some := by
    cases levels <;> rfl
  have hrow : Row.ofMembers (columns subTask levels) skip .closed (Row.intact
      [("id", Tree.ofValue (.int id.value.toInt)), ("name", Tree.ofValue (.string name)),
        ("status", Tree.ofValue (.string status.text)),
        ("sub_tasks", Tree.ofValue (.array (toValues ts)))])
      = (Reader.list subTask levels (Tree.ofValue (.array (toValues ts)))).map
          fun us => ((id, name, status, some us, ()), []) := by
    refine Eq.trans (Row.ofMembers_read rfl (EventId.reader_ofInt levels id) (by simp)) ?_
    rw [Row.ofMembers_read rfl (text_ofValue levels name) (by simp),
      Row.ofMembers_read rfl (TaskStatus.reader_ofValue levels status) (by simp),
      Row.ofMembers_only rfl]
    dsimp only
    rw [hoptional]
    cases Reader.list subTask levels (Tree.ofValue (.array (toValues ts))) <;> rfl
  refine Eq.trans (record_of_ofMembers hrow) ?_
  cases Reader.list subTask levels (Tree.ofValue (.array (toValues ts))) <;> rfl

/-! ## Their nesting -/

theorem nesting_toValue_none (id : EventId) (name : String) (status : TaskStatus) :
    (toValue ⟨id, name, status, none⟩).nesting = 1 := by
  rw [toValue]
  rfl

theorem nesting_toValue_some (id : EventId) (name : String) (status : TaskStatus)
    (ts : List Task) : (toValue ⟨id, name, status, some ts⟩).nesting
      = Value.nestingOfItems (toValues ts) + 2 := by
  rw [toValue]
  simp only [Value.nesting, Value.nestingOfMembers, Value.int, Nat.zero_max, Nat.max_zero]

theorem nestingOfItems_le {levels : Nat} {ts : List Task}
    (h : ∀ t ∈ ts, t.toValue.nesting ≤ levels) :
    Value.nestingOfItems (toValues ts) ≤ levels := by
  induction ts with
  | nil => exact Nat.zero_le levels
  | cons t ts ih =>
    obtain ⟨ht, hts⟩ := List.forall_mem_cons.1 h
    exact Nat.max_le.2 ⟨ht, ih hts⟩

/-- A layer of tasks adds an array and an object. -/
theorem Nests.nestingOfItems_le {n : Nat} {ts : List Task} (h : Nests (n + 1) ts) :
    Value.nestingOfItems (toValues ts) ≤ 2 * n + 1 := by
  induction n generalizing ts with
  | zero =>
    refine Task.nestingOfItems_le fun t ht => ?_
    obtain ⟨id, name, status, _ | us⟩ := t
    · exact Nat.le_of_eq (nesting_toValue_none id name status)
    · exact absurd (h _ ht us rfl) not_false
  | succ n ih =>
    refine Task.nestingOfItems_le fun t ht => ?_
    obtain ⟨id, name, status, _ | us⟩ := t
    · rw [nesting_toValue_none]
      omega
    · have hus := ih (h _ ht us rfl)
      rw [nesting_toValue_some]
      omega

theorem list_within {depth levels : Nat} {ts : List Task}
    (h : ∀ l, levels = l + 1 → items (readerOfDepth depth l) .closed (Tree.ofValues (toValues ts))
      = within (Value.nestingOfItems (toValues ts)) l ts) :
    Reader.list (readerOfDepth depth) levels (Tree.ofValue (.array (toValues ts)))
      = within (Value.nestingOfItems (toValues ts) + 1) levels ts := by
  cases levels with
  | zero => rfl
  | succ l => exact (h l rfl).trans (within_succ _ l ts).symm

mutual

/-- A task is read as far as the levels reach, two for each layer. -/
theorem readerOfDepth_ofValue : ∀ (t : Task) (depth levels : Nat), levels ≤ 2 * depth + 1 →
    readerOfDepth depth levels (Tree.ofValue t.toValue) = within t.toValue.nesting levels t
  | ⟨id, name, status, none⟩, depth, levels, _ => by
    rw [nesting_toValue_none]
    cases levels with
    | zero => cases depth <;> rfl
    | succ levels =>
      rw [within_succ]
      cases depth <;> exact readerWith_none levels id name status
  | ⟨id, name, status, some ts⟩, depth, levels, h => by
    rw [nesting_toValue_some]
    cases levels with
    | zero => cases depth <;> rfl
    | succ levels =>
      rw [within_succ]
      cases depth with
      | zero =>
        -- The last reader for sub-tasks refuses all of them, but the levels do not reach it.
        obtain rfl : levels = 0 := by omega
        exact readerWith_some 0 id name status ts
      | succ depth =>
        refine (readerWith_some levels id name status ts).trans ?_
        rw [list_within fun l hl => items_ofValues ts depth l (by omega), map_within]

theorem items_ofValues : ∀ (ts : List Task) (depth levels : Nat), levels ≤ 2 * depth + 1 →
    items (readerOfDepth depth levels) .closed (Tree.ofValues (toValues ts))
      = within (Value.nestingOfItems (toValues ts)) levels ts
  | [], _, levels, _ => (if_pos (Nat.zero_le levels)).symm
  | t :: ts, depth, levels, h =>
    items_within (readerOfDepth_ofValue t depth levels h) (items_ofValues ts depth levels h)

end

/-- A list of tasks is read as far as the levels reach. -/
theorem listReader_ofValue (levels : Nat) (ts : List Task) :
    Reader.list reader levels (Tree.ofValue (.array (toValues ts)))
      = within (Value.nestingOfItems (toValues ts) + 1) levels ts := by
  cases levels with
  | zero => rfl
  | succ levels =>
    rw [within_succ]
    exact items_ofValues ts levels levels (by omega)

mutual

theorem integral_toValue : ∀ t : Task, t.toValue.Integral
  | ⟨id, _, _, none⟩ => by
    rw [toValue]
    exact ⟨Value.integral_int id.value, trivial, trivial, trivial⟩
  | ⟨id, _, _, some ts⟩ => by
    rw [toValue]
    exact ⟨Value.integral_int id.value, trivial, trivial, itemsIntegral_toValues ts, trivial⟩

theorem itemsIntegral_toValues : ∀ ts : List Task, Value.ItemsIntegral (toValues ts)
  | [] => trivial
  | t :: ts => ⟨integral_toValue t, itemsIntegral_toValues ts⟩

end

end Task

/-! ## Groups -/

namespace TaskGroup

theorem nesting_toValue (g : TaskGroup) :
    g.toValue.nesting = Value.nestingOfItems (Task.toValues g.tasks) + 2 := by
  simp only [toValue, Execution.members, List.cons_append, List.nil_append, Value.nesting,
    Value.nestingOfMembers, Nat.zero_max, Nat.max_zero]

theorem integral_toValue (g : TaskGroup) : g.toValue.Integral :=
  ⟨trivial, trivial, Task.itemsIntegral_toValues g.tasks, trivial, trivial⟩

/-- A group is read as far as the levels reach. -/
theorem reader_ofValue (levels : Nat) (g : TaskGroup) :
    reader (levels + 1) (Tree.ofValue g.toValue) = within g.toValue.nesting (levels + 1) g := by
  obtain ⟨⟨id, run⟩, tasks, status⟩ := g
  have hrow : Row.ofMembers (columns levels) skip .closed (Row.intact
      [("execution_id", Tree.ofValue (.string id)), ("run_id", Tree.ofValue (.string run)),
        ("tasks", Tree.ofValue (.array (Task.toValues tasks))),
        ("status", Tree.ofValue (.string status.text))])
      = (Reader.list Task.reader levels (Tree.ofValue (.array (Task.toValues tasks)))).map
          fun ts => ((id, run, ts, status, ()), []) := by
    refine Eq.trans (Row.ofMembers_read rfl (text_ofValue levels id) (by simp)) ?_
    rw [Row.ofMembers_read rfl (text_ofValue levels run) (by simp),
      Row.ofMembers_present rfl (by simp), Row.ofMembers_only rfl]
    dsimp only
    rw [GroupStatus.reader_ofValue]
    cases Reader.list Task.reader levels (Tree.ofValue (.array (Task.toValues tasks))) <;> rfl
  rw [Task.listReader_ofValue, map_within] at hrow
  rw [nesting_toValue, within_succ]
  exact (record_of_ofMembers hrow).trans (map_within ..)

/-- The document of a group is the group again, as long as it nests no deeper than the levels of a
reader, and malformed beyond that.  This holds in either layout. -/
theorem decode_written (g : TaskGroup) :
    decodeString reader g.toValue.text = within g.toValue.nesting maxLevels g ∧
      decodeString reader g.toValue.prettyText = within g.toValue.nesting maxLevels g :=
  ⟨(decodeString_text _ g.integral_toValue).trans (reader_ofValue 126 g),
    (decodeString_prettyText _ g.integral_toValue).trans (reader_ofValue 126 g)⟩

end TaskGroup

end HistoryTree
