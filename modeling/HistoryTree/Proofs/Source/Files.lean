import HistoryTree.Proofs.Event.RoundTrip
import HistoryTree.Proofs.Source.Serving

/-!
# Histories in files

The path of a history leads from the root of a directory to a folder for the execution and a file
for the run (`Directory.follow_historyPath`), whatever the root is called.  A tree that `Holds`
histories has just one file for each of them below the root; so it answers like the histories
themselves, for every execution with ids that are usable as file names (`Directory.answers_eq`).
-/

namespace HistoryTree

/-! ## Following a path -/

namespace FileTree

variable {t : FileTree} {here : List String} {name : String} {rest : List String}

/-- The names of a path and of a text without separator behind it. -/
theorem names_append_separator (path name : String) (h : '/' ∉ name.toList) :
    names (path ++ "/" ++ name) = names path ++ [name] := by
  have hlist : (path ++ "/" ++ name).toList = path.toList ++ '/' :: name.toList := by
    simp [String.toList_append]
  rw [names, hlist, List.splitOn_append_cons_self, List.splitOn_eq_singleton h, List.map_append,
    ← names]
  simp

theorem names_of_not_mem (h : '/' ∉ name.toList) : names name = [name] := by
  simp [names, List.splitOn_eq_singleton h]

theorem names_separator_end (path : String) : names (path ++ "/") = names path ++ [""] := by
  have h := names_append_separator path "" (by simp)
  rwa [String.append_empty] at h

theorem exists_of_separator_end {path : String} (h : path.toList.getLast? = some '/') :
    ∃ front, path = front ++ "/" := by
  obtain ⟨front, hfront⟩ := List.getLast?_eq_some_iff.1 h
  exact ⟨String.ofList front, String.toList_inj.1 (by simp [hfront])⟩

/-- An empty name within a path does not count. -/
theorem follow_empty_name (before : List String) (here : List String) :
    t.follow here (before ++ "" :: name :: rest) = t.follow here (before ++ name :: rest) := by
  induction before generalizing here with
  | nil => rw [List.nil_append, List.nil_append, follow, if_pos (.inl rfl)]
  | cons first before ih =>
    rw [List.cons_append, List.cons_append, follow, follow]
    simp only [ih]
    cases before <;> rfl

/-! ## Entries -/

theorem lookup_directories (places : List (List String)) (q : List String) :
    (places.map fun place => (place, FileEntry.directory)).lookup q
      = if q ∈ places then some .directory else none := by
  induction places with
  | nil => rfl
  | cons place places ih =>
    rw [List.map_cons, List.lookup_cons, ih]
    by_cases hq : q = place
    · simp [hq]
    · rw [beq_false_of_ne hq]
      simp [hq]

/-- The places on the way to a place are those in front of it. -/
theorem mem_takes_iff {q way : List String} (hne : q ≠ way) :
    q ∈ (List.range way.length).map way.take ↔ q <+: way := by
  rw [List.mem_map]
  constructor
  · rintro ⟨n, -, rfl⟩
    exact List.take_prefix n way
  · intro hfront
    have hlt : q.length < way.length := by
      refine Nat.lt_of_le_of_ne hfront.length_le fun hlength => hne ?_
      exact hfront.eq_of_length hlength
    exact ⟨q.length, List.mem_range.2 hlt, (List.prefix_iff_eq_take.1 hfront).symm⟩

/-- The entries of a tree to which one was added: this entry, those from before, and the
directories on the way. -/
theorem lookup_add {q way : List String} {entry : FileEntry} (hway : ∀ n ∈ way, n ≠ "") :
    (t.add way entry).lookup q =
      if q = way then some entry
      else (t.lookup q).or (if q <+: way then some .directory else none) := by
  have hplace : way.filter (· ≠ "") = way := List.filter_eq_self.2 (by simpa using hway)
  have hmap : ((List.range way.length).map fun n => (way.take n, FileEntry.directory))
      = ((List.range way.length).map way.take).map fun place => (place, FileEntry.directory) := by
    rw [List.map_map]
    rfl
  rw [add, hplace, List.cons_append, List.lookup_cons]
  by_cases hq : q = way
  · simp [hq]
  · rw [beq_false_of_ne hq, List.lookup_append, hmap, lookup_directories, if_neg hq]
    simp only [mem_takes_iff hq]

end FileTree

namespace Directory

open FileTree

variable {t : FileTree} {here : List String} {root path name : String} {rest : List String}
  {x : Execution}

/-- To follow a path with one more name is to follow the path, and then the name. -/
theorem follow_join (h : '/' ∉ name.toList) (path : String) (here rest : List String) :
    t.follow here (names (join path name) ++ rest)
      = t.follow here (names path ++ name :: rest) := by
  rw [join_of_not_mem h]
  split
  · rename_i hpath
    rcases hpath with rfl | hslash
    · rw [String.empty_append, names_of_not_mem h]
      show _ = t.follow here ("" :: name :: rest)
      rw [follow, if_pos (.inl rfl)]
      rfl
    · obtain ⟨front, rfl⟩ := exists_of_separator_end hslash
      rw [names_append_separator front name h, names_separator_end, List.append_assoc,
        List.append_assoc]
      exact (follow_empty_name _ _).symm
  · rw [names_append_separator path name h, List.append_assoc]
    rfl

/-- The name of the file for a run. -/
def fileName (x : Execution) : String := x.run ++ ".json"

/-- The ids of an execution are usable as file names: the path of its history is accepted, and no
name in it is too long for the file system. -/
structure HasFileNames (x : Execution) : Prop where
  id_accepted : idFault? x.id = none
  run_accepted : idFault? x.run = none
  id_le : x.id.utf8ByteSize ≤ maxName
  fileName_le : (fileName x).utf8ByteSize ≤ maxName

/-- The ids of an execution are usable as file names below a root: the whole path is not too long
for the file system either. -/
structure IsUsable (root : String) (x : Execution) : Prop extends HasFileNames x where
  path_lt : (join (join root x.id) (fileName x)).utf8ByteSize < pathLimit

/-- Histories are held in files below a root, which is at a place of the tree: a folder for each
execution, in it a file for each run that reads as its history does when it is written, and nothing
else. -/
structure Holds (files : FileTree) (root : String) (m : Memory) (place : List String) : Prop where
  root_leads : ∀ name rest,
    files.follow [] (names root ++ name :: rest) = files.follow place (name :: rest)
  folder : ∀ x h, m.history? x = some h → files.lookup (place ++ [x.id]) = some .directory
  file : ∀ x h, m.history? x = some h →
    ∃ d, files.lookup (place ++ [x.id, fileName x]) = some (.file d) ∧
      Json.Reader.decode History.reader d = .ok h.asWritten
  only : ∀ way entry, files.lookup (place ++ way) = some entry →
    way = [] ∨ ∃ x h, m.history? x = some h ∧ (way = [x.id] ∨ way = [x.id, fileName x])

theorem not_mem_fileName (h : idFault? x.run = none) : '/' ∉ (fileName x).toList := by
  have hrun := (idFault?_eq_none_iff.1 h).2.2.2.1
  rw [fileName, String.toList_append, List.mem_append]
  rintro (hmem | hmem)
  · exact hrun hmem
  · revert hmem
    decide

theorem fileName_length (x : Execution) : 5 ≤ (fileName x).toList.length := by
  rw [fileName, String.toList_append, List.length_append]
  exact Nat.le_add_left 5 _

theorem fileName_ne (x : Execution) (short : String) (hshort : short.toList.length < 5) :
    fileName x ≠ short := by
  intro heq
  have hlength := fileName_length x
  rw [heq] at hlength
  omega

/-- The path of the history of an accepted execution is put together from its ids. -/
theorem historyPath_eq (hid : idFault? x.id = none) (hrun : idFault? x.run = none) :
    historyPath root x = .ok (join (join root x.id) (fileName x)) := by
  rw [historyPath, hid, hrun]
  rfl

/-- The path of a history leads from the root to the folder of the execution and the file. -/
theorem follow_historyPath (hid : idFault? x.id = none) (hrun : idFault? x.run = none)
    (root : String) (here : List String) :
    t.follow here (names (join (join root x.id) (fileName x)))
      = t.follow here (names root ++ [x.id, fileName x]) := by
  have hid' : '/' ∉ x.id.toList := (idFault?_eq_none_iff.1 hid).2.2.2.1
  have hfile := follow_join (t := t) (not_mem_fileName hrun) (join root x.id) here []
  rw [List.append_nil] at hfile
  rw [hfile, follow_join hid']

theorem join_ne_empty (path : String) (x : Execution) : join path (fileName x) ≠ "" := by
  intro h
  have hlength := congrArg (fun s : String => s.toList.length) h
  have hname := fileName_length x
  rw [join] at hlength
  split_ifs at hlength
  · simp only [String.toList_empty, List.length_nil] at hlength
    omega
  · simp only [String.toList_append, List.length_append, String.toList_empty, List.length_nil]
      at hlength
    omega
  · simp only [String.toList_append, List.length_append, String.toList_empty, List.length_nil]
      at hlength
    omega

/-- No two executions have the same file. -/
theorem eq_of_way_eq {y : Execution} (h : [x.id, fileName x] = [y.id, fileName y]) : x = y := by
  obtain ⟨hid, hname⟩ : x.id = y.id ∧ fileName x = fileName y := by simpa using h
  have hrun : x.run = y.run := by
    have hlist := congrArg String.toList hname
    rw [fileName, fileName, String.toList_append, String.toList_append] at hlist
    exact String.toList_inj.1 (List.append_cancel_right hlist)
  cases x
  cases y
  rw [Execution.mk.injEq]
  exact ⟨hid, hrun⟩

/-- A name of a single entry is looked up. -/
theorem follow_name (hempty : name ≠ "") (hdot : name ≠ ".") (hdots : name ≠ "..")
    (hle : name.utf8ByteSize ≤ maxName) (here rest : List String) :
    t.follow here (name :: rest) =
      match t.lookup (here ++ [name]) with
      | none => .missing
      | some .directory => t.follow (here ++ [name]) rest
      | some (.file d) => if rest.isEmpty then .document d else .failed .notADirectory := by
  have hplain : ¬ (name = "" ∨ name = ".") := by simp [hempty, hdot]
  have hfits : ¬ maxName < name.utf8ByteSize := by omega
  cases hlookup : t.lookup (here ++ [name]) with
  | none => simp only [follow, if_neg hplain, if_neg hdots, if_neg hfits, hlookup]
  | some entry =>
    cases entry <;> simp only [follow, if_neg hplain, if_neg hdots, if_neg hfits, hlookup]

/-- In the folder of an execution, the file for a run is looked up. -/
theorem follow_file (hx : IsUsable root x) (place : List String)
    (hfolder : t.lookup (place ++ [x.id]) = some .directory) :
    t.follow place [x.id, fileName x] =
      match t.lookup (place ++ [x.id, fileName x]) with
      | none => .missing
      | some .directory => .failed .isDirectory
      | some (.file d) => .document d := by
  obtain ⟨hempty, hdot, hdots, -⟩ := idFault?_eq_none_iff.1 hx.id_accepted
  have hfile := follow_name (t := t) (fileName_ne x "" (by decide)) (fileName_ne x "." (by decide))
    (fileName_ne x ".." (by decide)) hx.fileName_le (place ++ [x.id]) []
  rw [List.append_assoc] at hfile
  rw [follow_name hempty hdot hdots hx.id_le, hfolder]
  exact hfile

section Answers

variable {files : FileTree} {m : Memory} {place : List String}

/-- The path of a history leads to the root, and from there to the folder and the file. -/
theorem read_historyPath (hfiles : Holds files root m place) (hx : IsUsable root x) :
    files.read (join (join root x.id) (fileName x)) = files.follow place [x.id, fileName x] := by
  have hpath : (join (join root x.id) (fileName x)).isEmpty = false :=
    Bool.eq_false_iff.2 fun h => join_ne_empty _ _ (String.isEmpty_iff.1 h)
  have hfits : ¬ pathLimit ≤ (join (join root x.id) (fileName x)).utf8ByteSize :=
    Nat.not_le.2 hx.path_lt
  rw [FileTree.read, if_neg hfits, hpath, if_neg Bool.false_ne_true,
    follow_historyPath hx.id_accepted hx.run_accepted, hfiles.root_leads]

/-- An execution without history has no file.  It may have a folder, for another run. -/
theorem follow_of_no_history (hfiles : Holds files root m place) (hx : IsUsable root x)
    (hnone : m.history? x = none) : files.follow place [x.id, fileName x] = .missing := by
  obtain ⟨hempty, hdot, hdots, -⟩ := idFault?_eq_none_iff.1 hx.id_accepted
  have hfile : files.lookup (place ++ [x.id, fileName x]) = none := by
    rw [Option.eq_none_iff_forall_ne_some]
    intro entry hlookup
    obtain hnil | ⟨y, h, hy, hway | hway⟩ := hfiles.only _ entry hlookup
    · cases hnil
    · simp at hway
    · obtain rfl := eq_of_way_eq hway
      rw [hnone] at hy
      cases hy
  cases hfolder : files.lookup (place ++ [x.id]) with
  | none => rw [follow_name hempty hdot hdots hx.id_le, hfolder]
  | some entry =>
    obtain hnil | ⟨y, h, hy, hway | hway⟩ := hfiles.only [x.id] entry hfolder
    · cases hnil
    · have hdirectory := hfiles.folder y h hy
      rw [← hway] at hdirectory
      rw [follow_file hx place hdirectory, hfile]
    · simp at hway

/-- Histories in files are answered like histories in memory, as they are written. -/
theorem answers_eq (hfiles : Holds files root m place) (hx : IsUsable root x) :
    answers files root x = (m.answers x).map History.asWritten := by
  rw [answers, historyPath_eq hx.id_accepted hx.run_accepted, Memory.answers]
  simp only [read_historyPath hfiles hx]
  cases hhistory : m.history? x with
  | some h =>
    obtain ⟨d, hlookup, hdecode⟩ := hfiles.file x h hhistory
    rw [follow_file hx place (hfiles.folder x h hhistory), hlookup]
    simp only [FileRead.answer, hdecode]
    rfl
  | none =>
    rw [follow_of_no_history hfiles hx hhistory]
    rfl

end Answers

/-! ## Roots -/

theorem utf8ByteSize_join_le (path name : String) :
    (join path name).utf8ByteSize ≤ path.utf8ByteSize + name.utf8ByteSize + 1 := by
  rw [join]
  split_ifs
  · omega
  · rw [String.utf8ByteSize_append]
    omega
  · rw [String.utf8ByteSize_append, String.utf8ByteSize_append, show "/".utf8ByteSize = 1 from rfl]
    omega

/-- Below a root that is not too long, the paths are not too long if the names are not. -/
theorem HasFileNames.isUsable (hx : HasFileNames x)
    (hroot : root.utf8ByteSize + 2 * (maxName + 1) < pathLimit) : IsUsable root x where
  toHasFileNames := hx
  path_lt := by
    have hid := hx.id_le
    have hname := hx.fileName_le
    have hfolder := utf8ByteSize_join_le root x.id
    have hfile := utf8ByteSize_join_le (join root x.id) (fileName x)
    omega

theorem utf8ByteSize_le_join (h : '/' ∉ name.toList) (path : String) :
    path.utf8ByteSize ≤ (join path name).utf8ByteSize := by
  rw [join_of_not_mem h]
  split
  · rw [String.utf8ByteSize_append]
    omega
  · rw [String.utf8ByteSize_append, String.utf8ByteSize_append]
    omega

/-- Below a root that is too long, no file is read. -/
theorem answers_of_long_root (hx : HasFileNames x) (hroot : pathLimit ≤ root.utf8ByteSize)
    (files : FileTree) : answers files root x = .error (.file x .nameTooLong) := by
  have hid : '/' ∉ x.id.toList := (idFault?_eq_none_iff.1 hx.id_accepted).2.2.2.1
  have hfolder := utf8ByteSize_le_join hid root
  have hfile := utf8ByteSize_le_join (not_mem_fileName hx.run_accepted) (join root x.id)
  have hlong : pathLimit ≤ (join (join root x.id) (fileName x)).utf8ByteSize := by omega
  rw [answers, historyPath_eq hx.id_accepted hx.run_accepted]
  simp only [FileTree.read, if_pos hlong, FileRead.answer]

/-- A root of which each name is that of a single entry. -/
def IsPlain (root : String) : Prop :=
  ∀ name ∈ names root, name ≠ "." ∧ name ≠ ".." ∧ name.utf8ByteSize ≤ maxName

/-- The place of a plain root. -/
def placeOf (root : String) : List String := (names root).filter (· ≠ "")

/-- A path through directories leads to where it says. -/
theorem follow_directories (way : List String)
    (hplain : ∀ n ∈ way, n ≠ "." ∧ n ≠ ".." ∧ n.utf8ByteSize ≤ maxName)
    (hdirectories : ∀ q, q <+: way.filter (· ≠ "") → t.lookup (here ++ q) = some .directory) :
    t.follow here (way ++ name :: rest)
      = t.follow (here ++ way.filter (· ≠ "")) (name :: rest) := by
  induction way generalizing here with
  | nil => simp
  | cons first way ih =>
    obtain ⟨hdot, hdots, hle⟩ := hplain first (by simp)
    have hplain' : ∀ n ∈ way, n ≠ "." ∧ n ≠ ".." ∧ n.utf8ByteSize ≤ maxName :=
      fun n hn => hplain n (List.mem_cons_of_mem _ hn)
    by_cases hempty : first = ""
    · subst hempty
      have hfilter : ("" :: way).filter (· ≠ "") = way.filter (· ≠ "") := by simp
      rw [hfilter] at hdirectories ⊢
      rw [List.cons_append, follow, if_pos (.inl rfl)]
      exact ih hplain' hdirectories
    · have hfilter : (first :: way).filter (· ≠ "") = first :: way.filter (· ≠ "") := by
        simp [hempty]
      rw [hfilter] at hdirectories ⊢
      have hfirst := hdirectories [first] ((List.prefix_append [first] _))
      rw [List.cons_append, follow_name hempty hdot hdots hle, hfirst]
      simp only
      rw [ih hplain', List.append_assoc]
      · rfl
      · intro q hq
        rw [List.append_assoc]
        exact hdirectories (first :: q) ((List.prefix_cons_inj first).2 hq)

/-- Nothing but separators leads to the top of the tree. -/
theorem names_separators (n : Nat) :
    ∀ name ∈ names (String.ofList (.replicate n '/')), name = "" := by
  rw [names, String.toList_ofList]
  induction n with
  | zero => simp [List.splitOn_eq_singleton]
  | succ n ih =>
    have hsplit : (List.replicate (n + 1) '/').splitOn '/'
        = [] :: (List.replicate n '/').splitOn '/' :=
      List.splitOn_append_cons_self [] (.replicate n _)
    rw [hsplit]
    simpa using ih

theorem isPlain_separators (n : Nat) : IsPlain (String.ofList (.replicate n '/')) := by
  intro name hname
  rw [names_separators n name hname]
  decide

theorem placeOf_separators (n : Nat) : placeOf (String.ofList (.replicate n '/')) = [] := by
  rw [placeOf, List.filter_eq_nil_iff]
  intro name hname
  simpa using names_separators n name hname

/-! ## Trees that hold histories -/

/-- The tree that has a history in a file, written as a list of events. -/
def addHistory (root : String) (x : Execution) (h : History) (files : FileTree) : FileTree :=
  files.add (placeOf root ++ [x.id, fileName x]) (.file (Symbols.ofString h.toValue.text))

/-- The tree that has all histories in files below a root, and nothing else. -/
def filled (root : String) (histories : List (Execution × History)) : FileTree :=
  histories.foldr (fun entry files => addHistory root entry.1 entry.2 files)
    (FileTree.add [] (placeOf root) .directory)

variable {histories : List (Execution × History)} {h : History} {entry : FileEntry}
  {q way : List String}

theorem lookup_addHistory (hid : x.id ≠ "") {files : FileTree} :
    (addHistory root x h files).lookup q =
      if q = placeOf root ++ [x.id, fileName x] then
        some (.file (Symbols.ofString h.toValue.text))
      else (files.lookup q).or
        (if q <+: placeOf root ++ [x.id, fileName x] then some .directory else none) := by
  refine lookup_add ?_
  intro n hn
  rcases List.mem_append.1 hn with hn | hn
  · simpa using (List.mem_filter.1 hn).2
  · simp only [List.mem_cons, List.not_mem_nil, or_false] at hn
    rcases hn with rfl | rfl
    · exact hid
    · exact fileName_ne x "" (by decide)

/-- What stands in such a tree: the directories on the way to the root, the folder of each
execution, and the files. -/
structure Stores (root : String) (histories : List (Execution × History)) (files : FileTree) :
    Prop where
  root_directories : ∀ q, q <+: placeOf root → files.lookup q = some .directory
  folder : ∀ x h, histories.lookup x = some h →
    files.lookup (placeOf root ++ [x.id]) = some .directory
  file : ∀ x h, histories.lookup x = some h → files.lookup (placeOf root ++ [x.id, fileName x])
    = some (.file (Symbols.ofString h.toValue.text))
  only : ∀ way entry, files.lookup (placeOf root ++ way) = some entry →
    way = [] ∨ ∃ x h, histories.lookup x = some h ∧
      ((way = [x.id] ∧ entry = .directory) ∨ way = [x.id, fileName x])

theorem stores_nil (root : String) :
    Stores root [] (FileTree.add [] (placeOf root) .directory) := by
  have hplace : ∀ n ∈ placeOf root, n ≠ "" := fun n hn => by simpa using (List.mem_filter.1 hn).2
  refine ⟨?_, ?_, ?_, ?_⟩
  · intro q hq
    rw [lookup_add hplace, if_pos hq]
    split
    · rfl
    · rfl
  · rintro x h ⟨⟩
  · rintro x h ⟨⟩
  · intro way entry hlookup
    rw [lookup_add hplace] at hlookup
    split at hlookup
    · rename_i hway
      exact .inl (List.append_right_eq_self.1 hway)
    · split at hlookup
      · rename_i hway
        have hlength := hway.length_le
        rw [List.length_append] at hlength
        exact .inl (List.length_eq_zero_iff.1 (by omega))
      · cases hlookup

theorem eq_of_prefix_pair {name name' : String} (hway : way <+: [name, name']) :
    way = [] ∨ way = [name] ∨ way = [name, name'] := by
  have hlength := hway.length_le
  rw [List.prefix_iff_eq_take.1 hway]
  match way.length, hlength with
  | 0, _ => exact .inl rfl
  | 1, _ => exact .inr (.inl rfl)
  | 2, _ => exact .inr (.inr rfl)

/-- A history that is put in front of others is the one of its execution. -/
theorem lookup_cons_self : ((x, h) :: histories).lookup x = some h := by
  rw [List.lookup_cons, beq_self_eq_true]

theorem lookup_cons_of_ne {y : Execution} (hne : y ≠ x) :
    ((x, h) :: histories).lookup y = histories.lookup y := by
  rw [List.lookup_cons, beq_false_of_ne hne]

/-- Where a history is added, there is a folder for its execution, as there may have been. -/
theorem Stores.folder_addHistory {files : FileTree} (hfiles : Stores root histories files)
    (hid : x.id ≠ "") :
    (Directory.addHistory root x h files).lookup (placeOf root ++ [x.id]) = some .directory := by
  have hne : placeOf root ++ [x.id] ≠ placeOf root ++ [x.id, fileName x] := by simp
  have hfront : placeOf root ++ [x.id] <+: placeOf root ++ [x.id, fileName x] :=
    (List.prefix_append_right_inj _).2 (List.prefix_append [x.id] [fileName x])
  rw [lookup_addHistory hid, if_neg hne, if_pos hfront]
  cases hlookup : files.lookup (placeOf root ++ [x.id]) with
  | none => rfl
  | some entry =>
    obtain hnil | ⟨y, h', -, ⟨-, rfl⟩ | hway⟩ := hfiles.only _ _ hlookup
    · cases hnil
    · rfl
    · simp at hway

theorem Stores.addHistory {files : FileTree} (hfiles : Stores root histories files)
    (hid : x.id ≠ "") :
    Stores root ((x, h) :: histories) (Directory.addHistory root x h files) := by
  refine ⟨?_, ?_, ?_, ?_⟩
  · intro q hq
    have hne : q ≠ placeOf root ++ [x.id, fileName x] := by
      rintro rfl
      have hlength := hq.length_le
      simp only [List.length_append, List.length_cons, List.length_nil] at hlength
      omega
    rw [lookup_addHistory hid, if_neg hne, hfiles.root_directories q hq]
    rfl
  · intro y h' hy
    by_cases hyx : y = x
    · subst hyx
      exact hfiles.folder_addHistory hid
    · have hne : placeOf root ++ [y.id] ≠ placeOf root ++ [x.id, fileName x] := by simp
      rw [lookup_cons_of_ne hyx] at hy
      rw [lookup_addHistory hid, if_neg hne, hfiles.folder y h' hy]
      rfl
  · intro y h' hy
    rw [lookup_addHistory hid]
    by_cases hyx : y = x
    · subst hyx
      rw [lookup_cons_self] at hy
      cases hy
      rw [if_pos rfl]
    · rw [lookup_cons_of_ne hyx] at hy
      rw [if_neg fun hway => hyx (eq_of_way_eq (List.append_cancel_left hway)),
        hfiles.file y h' hy]
      rfl
  · intro way entry hlookup
    rw [lookup_addHistory hid] at hlookup
    split at hlookup
    · rename_i hway
      exact .inr ⟨x, h, lookup_cons_self, .inr (List.append_cancel_left hway)⟩
    · rename_i hne
      rcases Option.or_eq_some_iff.1 hlookup with hlookup | ⟨-, hlookup⟩
      · obtain hnil | ⟨y, h', hy, hway⟩ := hfiles.only way entry hlookup
        · exact .inl hnil
        · right
          by_cases hyx : y = x
          · subst hyx
            exact ⟨y, h, lookup_cons_self, hway⟩
          · exact ⟨y, h', by rw [lookup_cons_of_ne hyx, hy], hway⟩
      · split at hlookup
        · rename_i hfront
          cases hlookup
          rcases eq_of_prefix_pair ((List.prefix_append_right_inj _).1 hfront) with
            rfl | rfl | rfl
          · exact .inl rfl
          · exact .inr ⟨x, h, lookup_cons_self, .inl ⟨rfl, rfl⟩⟩
          · exact absurd rfl hne
        · cases hlookup

/-- A tree that was filled stores the histories that it was filled with. -/
theorem stores_filled (root : String) (hids : ∀ entry ∈ histories, entry.1.id ≠ "") :
    Stores root histories (filled root histories) := by
  induction histories with
  | nil => exact stores_nil root
  | cons entry histories ih =>
    exact (ih fun e he => hids e (List.mem_cons_of_mem _ he)).addHistory (hids entry (by simp))

/-- A tree that was filled with histories holds them, below every plain root. -/
theorem holds_filled {m : Memory} (hroot : IsPlain root)
    (hids : ∀ entry ∈ m.histories, entry.1.id ≠ "") :
    Holds (filled root m.histories) root m (placeOf root) := by
  have hstores := stores_filled root hids
  refine ⟨?_, hstores.folder, ?_, ?_⟩
  · intro name rest
    have hdirectories : ∀ q, q <+: (names root).filter (· ≠ "") →
        (filled root m.histories).lookup ([] ++ q) = some .directory :=
      fun q hq => hstores.root_directories q hq
    exact follow_directories (names root) hroot hdirectories
  · intro x h hx
    exact ⟨_, hstores.file x h hx, h.decodeString_text⟩
  · intro way entry hlookup
    obtain hnil | ⟨x, h, hx, ⟨hway, -⟩ | hway⟩ := hstores.only way entry hlookup
    · exact .inl hnil
    · exact .inr ⟨x, h, hx, .inl hway⟩
    · exact .inr ⟨x, h, hx, .inr hway⟩

end Directory

end HistoryTree
