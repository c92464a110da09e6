import HistoryTree.Proofs.Source.Files

/-!
# Paths stay below their root

A path is read as a list of parts (`PathPart.parts`): the top, if the path begins there, and then
what its names stand for; empty names and single dots within a path stand for nothing.  One more
name of a single entry is one more part, whatever the path is (`PathPart.parts_join`).  So the path
of a history has the parts of the root and two more, which are entries, and it tells the execution
that it belongs to (`Directory.historyPath_confined`).
-/

namespace HistoryTree

/-- What a part of a path stands for. -/
inductive PathPart where
  /-- The top of the tree. -/
  | top
  /-- The directory where one is. -/
  | here
  /-- The directory above. -/
  | above
  | entry (name : String)
  deriving DecidableEq, Repr

namespace PathPart

open FileTree (names)

/-- What a name within a path stands for. -/
def ofName? (name : String) : Option PathPart :=
  if name = "" ∨ name = "." then none
  else if name = ".." then some above
  else some (entry name)

/-- Where a path begins, if it says so. -/
def start? (path : String) : Option PathPart :=
  if path.toList.head? = some '/' then some top
  else if (names path).head? = some "." then some here
  else none

/-- The parts of a path. -/
def parts (path : String) : List PathPart :=
  (start? path).toList ++ (names path).filterMap ofName?

/-- A name that stands for a single entry. -/
structure IsEntry (name : String) : Prop where
  ne_empty : name ≠ ""
  ne_dot : name ≠ "."
  ne_dots : name ≠ ".."
  no_separator : '/' ∉ name.toList

variable {path name : String}

theorem IsEntry.ofName?_eq (h : IsEntry name) : ofName? name = some (entry name) := by
  unfold ofName?
  rw [if_neg (by simp [h.ne_empty, h.ne_dot]), if_neg h.ne_dots]

theorem names_ne_nil (path : String) : names path ≠ [] := by
  unfold names
  intro h
  exact List.splitOn_ne_nil _ _ (List.map_eq_nil_iff.1 h)

/-- What is put behind a path does not count for where it begins. -/
theorem start?_append {rest : String} {front more more' : List String} (hpath : path ≠ "")
    (hfront : front ≠ []) (hnames : names path = front ++ more)
    (hnames' : names (path ++ rest) = front ++ more') : start? (path ++ rest) = start? path := by
  have hlist : path.toList ≠ [] := by
    intro h
    exact hpath (String.toList_eq_nil_iff.1 h)
  unfold start?
  rw [hnames, hnames', List.head?_append_of_ne_nil _ hfront, List.head?_append_of_ne_nil _ hfront,
    String.toList_append, List.head?_append_of_ne_nil _ hlist]

theorem parts_of_isEntry (h : IsEntry name) : parts name = [entry name] := by
  have hstart : start? name = none := by
    unfold start?
    have hhead : ¬ name.toList.head? = some '/' :=
      fun hhead => h.no_separator (List.mem_of_mem_head? hhead)
    rw [if_neg hhead, FileTree.names_of_not_mem h.no_separator, if_neg (by simpa using h.ne_dot)]
  unfold parts
  rw [hstart, FileTree.names_of_not_mem h.no_separator]
  simp [h.ofName?_eq]

/-- One more name of an entry is one more part, and the parts before it stay. -/
theorem parts_join (h : IsEntry name) (path : String) :
    parts (Directory.join path name) = parts path ++ [entry name] := by
  rw [Directory.join_of_not_mem h.no_separator]
  by_cases hempty : path = ""
  · subst hempty
    rw [if_pos (.inl rfl), String.empty_append, parts_of_isEntry h]
    rfl
  by_cases hslash : path.toList.getLast? = some '/'
  · rw [if_pos (.inr hslash)]
    obtain ⟨front, rfl⟩ := FileTree.exists_of_separator_end hslash
    have hnames := FileTree.names_separator_end front
    have hnames' := FileTree.names_append_separator front name h.no_separator
    unfold parts
    rw [start?_append hempty (names_ne_nil front) hnames hnames', hnames, hnames',
      List.filterMap_append, List.filterMap_append, List.filterMap_cons_some h.ofName?_eq]
    simp [ofName?]
  · rw [if_neg (by simp [hempty, hslash])]
    have hnames : names (path ++ ("/" ++ name)) = names path ++ [name] := by
      rw [← String.append_assoc]
      exact FileTree.names_append_separator path name h.no_separator
    have hstart := start?_append hempty (names_ne_nil path) (List.append_nil _).symm hnames
    unfold parts
    rw [String.append_assoc, hstart, hnames, List.filterMap_append,
      List.filterMap_cons_some h.ofName?_eq]
    simp

example : parts (Directory.join "./data//." "run") = [here, entry "data", entry "run"] := by
  decide +kernel

end PathPart

namespace Directory

open PathPart (IsEntry parts)

variable {root path : String} {x y : Execution}

theorem isEntry_of_accepted {id : String} (h : idFault? id = none) : IsEntry id := by
  obtain ⟨hempty, hdot, hdots, hslash, -, -⟩ := idFault?_eq_none_iff.1 h
  exact ⟨hempty, hdot, hdots, hslash⟩

theorem isEntry_fileName (h : idFault? x.run = none) : IsEntry (fileName x) where
  ne_empty := fileName_ne x "" (by decide)
  ne_dot := fileName_ne x "." (by decide)
  ne_dots := fileName_ne x ".." (by decide)
  no_separator := not_mem_fileName h

/-- A path is given out just for the executions of which both ids are accepted. -/
theorem historyPath_eq_ok_iff : historyPath root x = .ok path ↔
    idFault? x.id = none ∧ idFault? x.run = none ∧
      path = join (join root x.id) (fileName x) := by
  constructor
  · intro h
    unfold historyPath at h
    cases hid : idFault? x.id with
    | some fault => simp [hid] at h
    | none =>
      cases hrun : idFault? x.run with
      | some fault => simp [hid, hrun] at h
      | none =>
        simp only [hid, hrun, Option.or_none] at h
        cases h
        exact ⟨rfl, rfl, rfl⟩
  · rintro ⟨hid, hrun, rfl⟩
    exact historyPath_eq hid hrun

/-- The name of a file is put behind a folder with a separator. -/
theorem join_join (hid : IsEntry x.id) (hfile : IsEntry (fileName x)) :
    join (join root x.id) (fileName x)
      = root ++ (if root = "" ∨ root.toList.getLast? = some '/' then "" else "/") ++ x.id
          ++ "/" ++ x.run ++ ".json" := by
  have hlast : ∀ start : String, ¬ (start ++ x.id = "" ∨
      (start ++ x.id).toList.getLast? = some '/') := by
    intro start
    have hlist : x.id.toList ≠ [] := by
      intro h
      exact hid.ne_empty (String.toList_eq_nil_iff.1 h)
    rw [String.toList_append, List.getLast?_append_of_ne_nil _ hlist]
    rintro (h | h)
    · exact hid.ne_empty (by simpa using (String.append_eq_empty_iff.1 h).2)
    · exact hid.no_separator (List.mem_of_mem_getLast? h)
  rw [join_of_not_mem hfile.no_separator, join_of_not_mem hid.no_separator, fileName]
  split
  · rw [if_neg (hlast root)]
    simp [String.append_assoc]
  · rw [if_neg (hlast (root ++ "/"))]
    simp [String.append_assoc]

theorem parts_historyPath (h : historyPath root x = .ok path) :
    parts path = parts root ++ [.entry x.id, .entry (fileName x)] := by
  obtain ⟨hid, hrun, rfl⟩ := historyPath_eq_ok_iff.1 h
  rw [PathPart.parts_join (isEntry_fileName hrun), PathPart.parts_join (isEntry_of_accepted hid),
    List.append_assoc]
  rfl

/-- The path of a history is given out just for ids that name single entries.  It is the root, the
execution id and the run id with its ending; it has two more parts than the root, behind those of
the root, and they are entries.  No other execution gets it. -/
theorem historyPath_confined (root : String) (x : Execution) :
    ((∃ path, historyPath root x = .ok path) ↔ ∀ id ∈ [x.id, x.run],
      id ≠ "" ∧ id ≠ "." ∧ id ≠ ".." ∧
        '/' ∉ id.toList ∧ '\\' ∉ id.toList ∧ '\x00' ∉ id.toList) ∧
    ∀ path, historyPath root x = .ok path →
      path = root ++ (if root = "" ∨ root.toList.getLast? = some '/' then "" else "/") ++ x.id
        ++ "/" ++ x.run ++ ".json" ∧
      parts path = parts root ++ [.entry x.id, .entry (x.run ++ ".json")] ∧
      (∀ name ∈ [x.id, x.run ++ ".json"], name ≠ "." ∧ name ≠ ".." ∧ '/' ∉ name.toList) ∧
      ∀ y, historyPath root y = .ok path → y = x := by
  constructor
  · simp only [historyPath_eq_ok_iff, idFault?_eq_none_iff, List.forall_mem_cons]
    constructor
    · rintro ⟨_, hid, hrun, -⟩
      exact ⟨hid, hrun, List.forall_mem_nil _⟩
    · rintro ⟨hid, hrun, -⟩
      exact ⟨_, hid, hrun, rfl⟩
  · intro path h
    obtain ⟨hid, hrun, hpath⟩ := historyPath_eq_ok_iff.1 h
    have hfolder := isEntry_of_accepted hid
    have hfile := isEntry_fileName hrun
    refine ⟨?_, parts_historyPath h, ?_, ?_⟩
    · rw [hpath]
      exact join_join hfolder hfile
    · intro name hname
      simp only [List.mem_cons, List.not_mem_nil, or_false] at hname
      rcases hname with rfl | rfl
      · exact ⟨hfolder.ne_dot, hfolder.ne_dots, hfolder.no_separator⟩
      · exact ⟨hfile.ne_dot, hfile.ne_dots, hfile.no_separator⟩
    · intro y hy
      have hparts := List.append_cancel_left ((parts_historyPath hy).symm.trans (parts_historyPath h))
      exact eq_of_way_eq (by simpa using hparts)

/-- Ids may hold what is special in other places of an address or a command. -/
theorem order_path_confined :
    historyPath "/data" ⟨"order#7?x=1", "run.1"⟩ = .ok "/data/order#7?x=1/run.1.json" ∧
      parts "/data/order#7?x=1/run.1.json"
        = parts "/data" ++ [.entry "order#7?x=1", .entry "run.1.json"] ∧
      ∀ y, historyPath "/data" y = .ok "/data/order#7?x=1/run.1.json" →
        y = ⟨"order#7?x=1", "run.1"⟩ := by
  have hpath : historyPath "/data" ⟨"order#7?x=1", "run.1"⟩
      = .ok "/data/order#7?x=1/run.1.json" := by decide +kernel
  obtain ⟨-, hparts, -, honly⟩ := (historyPath_confined "/data" ⟨"order#7?x=1", "run.1"⟩).2 _ hpath
  exact ⟨hpath, hparts, honly⟩

end Directory

end HistoryTree
