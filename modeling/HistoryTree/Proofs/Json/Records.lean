import HistoryTree.Json.Record
import HistoryTree.Proofs.Json.Documents
import Mathlib.Data.List.Perm.Basic

/-!
# Records in any order

A record is read from the members of an object one by one.  What it reads as does not depend on
the order: each column takes the one member of its name, or its value for a missing field, and the
members of other names are left for `other` (`Row.ofMembers_eq_ok_iff`).  So the members may be
reordered, and members of other names may stand anywhere among them (`Row.Reads.of_perm`).
-/

namespace HistoryTree.Json

variable {J ρ : Type}

/-- What a column takes from the members of its name: the value of the only one, or where there is
none, its value for a missing field. -/
def Column.Takes (c : Column J) (ms : List (String × J)) (a : c.Value) : Prop :=
  (ms = [] ∧ c.absent = some a) ∨ ∃ m, ms = [m] ∧ c.read m.2 = .ok a

/-- What becomes of the value of a column on the way through the members of its name. -/
def Column.Fills (c : Column J) (v : Option c.Value) (ms : List (String × J))
    (v' : Option c.Value) : Prop :=
  (ms = [] ∧ v' = v) ∨ (v = none ∧ ∃ m a, ms = [m] ∧ c.read m.2 = .ok a ∧ v' = some a)

/-- A column that is filled takes no further member. -/
theorem Column.fills_some_iff {c : Column J} {a : c.Value} {ms : List (String × J)}
    {v' : Option c.Value} : c.Fills (some a) ms v' ↔ ms = [] ∧ v' = some a := by
  simp [Fills]

/-- A column is filled by one member, which it must be able to read. -/
theorem Column.fills_cons_iff {c : Column J} {v v' : Option c.Value} {m : String × J}
    {ms : List (String × J)} : c.Fills v (m :: ms) v' ↔
      v = none ∧ ms = [] ∧ ∃ a, c.read m.2 = .ok a ∧ v' = some a := by
  constructor
  · rintro (⟨hms, -⟩ | ⟨rfl, _, a, hms, ha, rfl⟩)
    · cases hms
    · cases hms
      exact ⟨rfl, rfl, a, ha, rfl⟩
  · rintro ⟨rfl, rfl, a, ha, rfl⟩
    exact .inr ⟨rfl, m, a, rfl, ha, rfl⟩

theorem Column.takes_iff {c : Column J} {ms : List (String × J)} {a : c.Value} :
    c.Takes ms a ↔ ∃ v, c.Fills none ms v ∧ v.or c.absent = some a := by
  constructor
  · rintro (⟨rfl, ha⟩ | ⟨m, rfl, ha⟩)
    · exact ⟨none, .inl ⟨rfl, rfl⟩, ha⟩
    · exact ⟨some a, .inr ⟨rfl, m, a, rfl, ha, rfl⟩, rfl⟩
  · rintro ⟨v, ⟨rfl, rfl⟩ | ⟨-, m, b, rfl, hb, rfl⟩, ha⟩
    · exact .inl ⟨rfl, ha⟩
    · obtain rfl : b = a := Option.some.inj ha
      exact .inr ⟨m, rfl, hb⟩

namespace Row

/-- A row is what the columns take from members, each from those of its name. -/
def Reads : (cs : List (Column J)) → List (String × J) → Row cs → Prop
  | [], _, _ => True
  | c :: cs, ms, (a, row) =>
    c.Takes (ms.filter (·.1 = c.key)) a ∧ Reads cs (ms.filter (·.1 ≠ c.key)) row

/-- The members that belong to no column. -/
def remaining (cs : List (Column J)) (ms : List (String × J)) : List (String × J) :=
  ms.filter (·.1 ∉ cs.map (·.key))

/-- What is read of members one by one, each under its key. -/
def Others (other : J → Except Failure ρ) (ms : List (String × J)) (rest : List (String × ρ)) :
    Prop :=
  List.Forall₂ (fun m r => m.1 = r.1 ∧ other m.2 = .ok r.2) ms rest

variable {c : Column J} {cs : List (Column J)} {other : J → Except Failure ρ}
  {ms ms' extra : List (String × J)} {rest : List (String × ρ)}

variable {d d' : Draft cs} {k : String} {j : J}

theorem collect_of_refused {e : Failure} (h : d.enter k j cs = .error e) :
    collect cs other .closed d (intact ((k, j) :: ms)) = .error e := by
  show collect cs other .closed d ((.of k, j) :: intact ms) = _
  simp only [collect, Scan.get, Scan.of, h]

/-- A member of a column is entered into its row. -/
theorem collect_of_entered (h : d.enter k j cs = .ok (some d')) :
    collect cs other .closed d (intact ((k, j) :: ms))
      = collect cs other .closed d' (intact ms) := by
  show collect cs other .closed d ((.of k, j) :: intact ms) = _
  simp only [collect, Scan.get, Scan.of, h]

/-- A member of no column is kept beside the row. -/
theorem collect_of_other (h : d.enter k j cs = .ok none) :
    collect cs other .closed d (intact ((k, j) :: ms)) =
      (other j).bind fun r =>
        (collect cs other .closed d (intact ms)).map fun p => (p.1, (k, r) :: p.2) := by
  show collect cs other .closed d ((.of k, j) :: intact ms) = _
  simp only [collect, Scan.get, Scan.of, h]
  cases other j with
  | error e => rfl
  | ok r => cases collect cs other .closed d (intact ms) <;> rfl

theorem collect_of_other_iff (h : d.enter k j cs = .ok none) :
    collect cs other .closed d (intact ((k, j) :: ms)) = .ok (d', rest) ↔
      ∃ r rest', rest = (k, r) :: rest' ∧ other j = .ok r ∧
        collect cs other .closed d (intact ms) = .ok (d', rest') := by
  rw [collect_of_other h]
  cases other j with
  | error e => simp [Except.bind]
  | ok r =>
    cases collect cs other .closed d (intact ms) with
    | error e => simp [Except.bind, Except.map]
    | ok p =>
      obtain ⟨d'', rest'⟩ := p
      constructor
      · rintro ⟨⟩
        exact ⟨r, rest', rfl, rfl, rfl⟩
      · rintro ⟨r', rest'', rfl, ⟨⟩, ⟨⟩⟩
        rfl

theorem collect_nil_iff {d d' : Draft ([] : List (Column J))} :
    collect [] other .closed d (intact ms) = .ok (d', rest) ↔ Others other ms rest := by
  induction ms generalizing rest with
  | nil =>
    show Except.ok (d, []) = Except.ok (d', rest) ↔ _
    rw [Others, List.forall₂_nil_left_iff, Except.ok.injEq, Prod.mk.injEq, @eq_comm _ rest]
    exact and_iff_right rfl
  | cons m ms ih =>
    obtain ⟨k, j⟩ := m
    simp only [collect_of_other_iff (d := d) (k := k) (j := j) rfl, ih, Others,
      List.forall₂_cons_left_iff, Prod.exists]
    constructor
    · rintro ⟨r, rest', rfl, hr, hms⟩
      exact ⟨k, r, rest', ⟨rfl, hr⟩, hms, rfl⟩
    · rintro ⟨_, r, rest', ⟨rfl, hr⟩, hms, rfl⟩
      exact ⟨r, rest', rfl, hr, hms⟩

theorem enter_own {v : Option c.Value} (hk : k = c.key) :
    Draft.enter k j (c :: cs) (v, d) =
      match v, c.read j with
      | some _, _ => mismatch (.duplicateField k)
      | none, .ok a => .ok (some (some a, d))
      | none, .error e => .error e := by
  refine (if_pos hk).trans ?_
  cases v <;> cases c.read j <;> rfl

theorem enter_further {v : Option c.Value} (hk : k ≠ c.key) :
    Draft.enter k j (c :: cs) (v, d) =
      match Draft.enter k j cs d with
      | .ok (some d') => .ok (some (v, d'))
      | .ok none => .ok none
      | .error e => .error e :=
  if_neg hk

/-- Each column reads the members of its name, and the further columns the others. -/
theorem collect_cons_iff {v v' : Option c.Value} :
    collect (c :: cs) other .closed (v, d) (intact ms) = .ok ((v', d'), rest) ↔
      c.Fills v (ms.filter (·.1 = c.key)) v' ∧
      collect cs other .closed d (intact (ms.filter (·.1 ≠ c.key))) = .ok (d', rest) := by
  induction ms generalizing v d rest with
  | nil =>
    show Except.ok ((v, d), []) = Except.ok ((v', d'), rest) ↔ c.Fills v [] v' ∧
      Except.ok (d, []) = Except.ok (d', rest)
    simp [Column.Fills, and_assoc, eq_comm]
  | cons m ms ih =>
    obtain ⟨k, j⟩ := m
    by_cases hk : k = c.key
    · have howns : ((k, j) :: ms).filter (·.1 = c.key) = (k, j) :: ms.filter (·.1 = c.key) :=
        List.filter_cons_of_pos (by simp [hk])
      have hothers : ((k, j) :: ms).filter (·.1 ≠ c.key) = ms.filter (·.1 ≠ c.key) :=
        List.filter_cons_of_neg (by simp [hk])
      rw [howns, hothers, Column.fills_cons_iff]
      have henter := enter_own (v := v) (d := d) (j := j) hk
      cases v with
      | some b =>
        rw [collect_of_refused henter]
        simp
      | none =>
        cases hread : c.read j with
        | error e =>
          rw [hread] at henter
          rw [collect_of_refused henter]
          simp
        | ok a =>
          rw [hread] at henter
          rw [collect_of_entered henter, ih, Column.fills_some_iff]
          simp
    · have howns : ((k, j) :: ms).filter (·.1 = c.key) = ms.filter (·.1 = c.key) :=
        List.filter_cons_of_neg (by simp [hk])
      have hothers : ((k, j) :: ms).filter (·.1 ≠ c.key) = (k, j) :: ms.filter (·.1 ≠ c.key) :=
        List.filter_cons_of_pos (by simp [hk])
      rw [howns, hothers]
      have henter := enter_further (v := v) (d := d) (j := j) hk
      cases hrest : Draft.enter k j cs d with
      | error e =>
        rw [hrest] at henter
        rw [collect_of_refused henter, collect_of_refused hrest]
        simp
      | ok d'' =>
        rw [hrest] at henter
        cases d'' with
        | some d'' => rw [collect_of_entered henter, collect_of_entered hrest, ih]
        | none =>
          rw [collect_of_other_iff henter, collect_of_other_iff hrest]
          simp only [ih]
          constructor
          · rintro ⟨r, rest', hrest', hr, hv, hd⟩
            exact ⟨hv, r, rest', hrest', hr, hd⟩
          · rintro ⟨hv, r, rest', hrest', hr, hd⟩
            exact ⟨r, rest', hrest', hr, hv, hd⟩

/-! ## Rows -/

theorem finish_cons_iff {v : Option c.Value} {a : c.Value} {row : Row cs} :
    Draft.finish (c :: cs) (v, d) = .ok (a, row) ↔
      v.or c.absent = some a ∧ Draft.finish cs d = .ok row := by
  rw [Draft.finish]
  cases hv : v.or c.absent with
  | none => simp [mismatch]
  | some b =>
    cases hd : Draft.finish cs d with
    | error e => simp
    | ok row' =>
      constructor
      · rintro ⟨⟩
        exact ⟨rfl, rfl⟩
      · rintro ⟨⟨⟩, ⟨⟩⟩
        rfl

theorem exists_collect_iff {row : Row cs} :
    ofMembers cs other .closed (intact ms) = .ok (row, rest) ↔
      ∃ d, collect cs other .closed (Draft.empty cs) (intact ms) = .ok (d, rest) ∧
        Draft.finish cs d = .ok row := by
  rw [ofMembers]
  cases hcollect : collect cs other .closed (Draft.empty cs) (intact ms) with
  | error e => simp
  | ok p =>
    obtain ⟨d, rest'⟩ := p
    constructor
    · intro h
      cases hfinish : Draft.finish cs d with
      | error e =>
        simp only [hfinish] at h
        cases h
      | ok row' =>
        simp only [hfinish] at h
        cases h
        exact ⟨d, rfl, hfinish⟩
    · rintro ⟨_, ⟨⟩, hfinish⟩
      simp only [hfinish]
      rfl

theorem remaining_cons : remaining (c :: cs) ms = remaining cs (ms.filter (·.1 ≠ c.key)) := by
  rw [remaining, remaining, List.filter_filter]
  refine List.filter_congr fun m _ => ?_
  simp only [List.map_cons, List.mem_cons, not_or, Bool.decide_and, ne_eq, Bool.and_comm]

/-- The columns read their members, and `other` reads those that belong to no column. -/
theorem ofMembers_eq_ok_iff {row : Row cs} :
    ofMembers cs other .closed (intact ms) = .ok (row, rest) ↔
      Reads cs ms row ∧ Others other (remaining cs ms) rest := by
  rw [exists_collect_iff]
  induction cs generalizing ms with
  | nil =>
    have hall : remaining [] ms = ms := List.filter_eq_self.2 fun m _ => by simp
    rw [hall]
    constructor
    · rintro ⟨d, hcollect, -⟩
      exact ⟨trivial, collect_nil_iff.1 hcollect⟩
    · rintro ⟨-, hrest⟩
      exact ⟨(), collect_nil_iff.2 hrest, rfl⟩
  | cons c cs ih =>
    obtain ⟨a, row⟩ := row
    rw [remaining_cons, Reads, Column.takes_iff]
    constructor
    · rintro ⟨⟨v, d⟩, hcollect, hfinish⟩
      obtain ⟨hv, hcollect⟩ := collect_cons_iff.1 hcollect
      obtain ⟨ha, hfinish⟩ := finish_cons_iff.1 hfinish
      obtain ⟨hrow, hrest⟩ := ih.1 ⟨d, hcollect, hfinish⟩
      exact ⟨⟨⟨v, hv, ha⟩, hrow⟩, hrest⟩
    · rintro ⟨⟨⟨v, hv, ha⟩, hrow⟩, hrest⟩
      obtain ⟨d, hcollect, hfinish⟩ := ih.2 ⟨hrow, hrest⟩
      exact ⟨(v, d), collect_cons_iff.2 ⟨hv, hcollect⟩, finish_cons_iff.2 ⟨ha, hfinish⟩⟩

/-- A row of values leaves the members that belong to no column as they are. -/
theorem ofValues_eq_ok_iff {cs : List (Column Value)} {ms rest : List (String × Value)}
    {row : Row cs} :
    ofValues cs ms = .ok (row, rest) ↔ Reads cs ms row ∧ rest = remaining cs ms := by
  rw [ofValues, ofMembers_eq_ok_iff, Others, @eq_comm _ rest]
  have hsame : (fun (m r : String × Value) =>
      m.1 = r.1 ∧ (Except.ok m.2 : Except Failure Value) = .ok r.2) = Eq := by
    funext m r
    rw [Except.ok.injEq, ← Prod.ext_iff]
  rw [hsame, List.forall₂_eq_eq_eq]

/-! ## Members in the order of the columns -/

/-- A column that no member belongs to stays as it is. -/
theorem collect_past {v : Option c.Value} (hms : ∀ m ∈ ms, m.1 ≠ c.key) :
    collect (c :: cs) other .closed (v, d) (intact ms)
      = (collect cs other .closed d (intact ms)).map fun p => ((v, p.1), p.2) := by
  induction ms generalizing d with
  | nil => rfl
  | cons m ms ih =>
    obtain ⟨k, j⟩ := m
    have hk : k ≠ c.key := hms (k, j) List.mem_cons_self
    have ih := fun d => ih (d := d) fun n hn => hms n (List.mem_cons_of_mem _ hn)
    have henter := enter_further (v := v) (d := d) (j := j) hk
    cases hrest : Draft.enter k j cs d with
    | error e =>
      rw [hrest] at henter
      rw [collect_of_refused henter, collect_of_refused hrest]
      rfl
    | ok d' =>
      rw [hrest] at henter
      cases d' with
      | some d' => rw [collect_of_entered henter, collect_of_entered hrest, ih]
      | none =>
        rw [collect_of_other henter, collect_of_other hrest, ih]
        cases other j with
        | error e => rfl
        | ok r => cases collect cs other .closed d (intact ms) <;> rfl

theorem finish_of_some {v : Option c.Value} {a : c.Value} (h : v.or c.absent = some a) :
    Draft.finish (c :: cs) (v, d) = (Draft.finish cs d).map fun row => (a, row) := by
  rw [Draft.finish, h]
  cases Draft.finish cs d <;> rfl

theorem ofMembers_present {m : String × J} (hkey : m.1 = c.key) (hms : ∀ n ∈ ms, n.1 ≠ c.key) :
    ofMembers (c :: cs) other .closed (intact (m :: ms)) =
      (c.read m.2).bind fun a =>
        (ofMembers cs other .closed (intact ms)).map fun p => ((a, p.1), p.2) := by
  obtain ⟨k, j⟩ := m
  have henter := enter_own (v := none) (d := Draft.empty cs) (j := j) hkey
  rw [ofMembers, Draft.empty]
  cases hread : c.read j with
  | error e =>
    rw [hread] at henter
    rw [collect_of_refused henter]
    rfl
  | ok a =>
    rw [hread] at henter
    rw [collect_of_entered henter, collect_past hms, ofMembers]
    cases collect cs other .closed (Draft.empty cs) (intact ms) with
    | error e => rfl
    | ok p =>
      show (Draft.finish (c :: cs) (some a, p.1)).map _ = _
      rw [finish_of_some rfl]
      show _ = ((Draft.finish cs p.1).map _).map _
      cases Draft.finish cs p.1 <;> rfl

theorem ofMembers_read {m : String × J} {a : c.Value} (hkey : m.1 = c.key)
    (hread : c.read m.2 = .ok a) (hms : ∀ n ∈ ms, n.1 ≠ c.key) :
    ofMembers (c :: cs) other .closed (intact (m :: ms)) =
      (ofMembers cs other .closed (intact ms)).map fun p => ((a, p.1), p.2) := by
  rw [ofMembers_present hkey hms, hread]
  rfl

theorem ofMembers_only {m : String × J} (hkey : m.1 = c.key) :
    ofMembers [c] other .closed (intact [m]) = (c.read m.2).map fun a => ((a, ()), []) := by
  rw [ofMembers_present hkey (List.forall_mem_nil _)]
  cases c.read m.2 <;> rfl

theorem reads_nil {row : Row ([] : List (Column J))} : Reads [] ms row := trivial

theorem reads_present {m : String × J} {a : c.Value} {row : Row cs} (hkey : m.1 = c.key)
    (hread : c.read m.2 = .ok a) (hms : ∀ n ∈ ms, n.1 ≠ c.key) (h : Reads cs ms row) :
    Reads (c :: cs) (m :: ms) (a, row) := by
  have hown : (m :: ms).filter (·.1 = c.key) = [m] := by
    rw [List.filter_cons_of_pos (by simp [hkey]), List.filter_eq_nil_iff.2]
    exact fun n hn => by simpa using hms n hn
  have hothers : (m :: ms).filter (·.1 ≠ c.key) = ms := by
    rw [List.filter_cons_of_neg (by simp [hkey]), List.filter_eq_self.2]
    exact fun n hn => by simpa using hms n hn
  rw [Reads, hown, hothers]
  exact ⟨.inr ⟨m, rfl, hread⟩, h⟩

theorem reads_absent {a : c.Value} {row : Row cs} (ha : c.absent = some a)
    (hms : ∀ m ∈ ms, m.1 ≠ c.key) (h : Reads cs ms row) : Reads (c :: cs) ms (a, row) := by
  have hown : ms.filter (·.1 = c.key) = [] :=
    List.filter_eq_nil_iff.2 fun m hm => by simpa using hms m hm
  have hothers : ms.filter (·.1 ≠ c.key) = ms :=
    List.filter_eq_self.2 fun m hm => by simpa using hms m hm
  rw [Reads, hown, hothers]
  exact ⟨.inl ⟨rfl, ha⟩, h⟩

/-! ## Other members, and another order -/

/-- What a column takes does not depend on the order of the members. -/
theorem takes_of_perm {a : c.Value} (h : c.Takes ms a) (hperm : ms'.Perm ms) :
    c.Takes ms' a := by
  obtain ⟨rfl, ha⟩ | ⟨m, rfl, ha⟩ := h
  · exact .inl ⟨hperm.eq_nil, ha⟩
  · exact .inr ⟨m, hperm.eq_singleton, ha⟩

/-- A row is also read from the members in another order, and with members of other names among
them. -/
theorem Reads.of_perm {row : Row cs} (h : Reads cs ms row) (hperm : ms'.Perm (ms ++ extra))
    (hextra : ∀ m ∈ extra, m.1 ∉ cs.map (·.key)) : Reads cs ms' row := by
  induction cs generalizing ms ms' extra with
  | nil => trivial
  | cons c cs ih =>
    obtain ⟨a, row⟩ := row
    simp only [List.map_cons, List.mem_cons, not_or] at hextra
    obtain ⟨ha, hrow⟩ := h
    have hown : extra.filter (·.1 = c.key) = [] :=
      List.filter_eq_nil_iff.2 fun m hm => by simpa using (hextra m hm).1
    constructor
    · have hfilter := hperm.filter (·.1 = c.key)
      rw [List.filter_append, hown, List.append_nil] at hfilter
      exact takes_of_perm ha hfilter
    · have hfilter := hperm.filter (·.1 ≠ c.key)
      rw [List.filter_append] at hfilter
      exact ih hrow hfilter fun m hm => (hextra m (List.mem_filter.1 hm).1).2

/-- Members of which some belong to columns and the others, which come last, do not. -/
theorem remaining_append (hms : ∀ m ∈ ms, m.1 ∈ cs.map (·.key))
    (hextra : ∀ m ∈ extra, m.1 ∉ cs.map (·.key)) : remaining cs (ms ++ extra) = extra := by
  rw [remaining, List.filter_append, List.filter_eq_nil_iff.2, List.nil_append,
    List.filter_eq_self.2]
  · exact fun m hm => decide_eq_true (hextra m hm)
  · exact fun m hm => by simpa using hms m hm

theorem perm_remaining (hperm : ms'.Perm (ms ++ extra))
    (hextra : ∀ m ∈ extra, m.1 ∉ cs.map (·.key)) :
    (remaining cs ms').Perm (remaining cs ms ++ extra) := by
  have hkept : extra.filter (·.1 ∉ cs.map (·.key)) = extra :=
    List.filter_eq_self.2 fun m hm => decide_eq_true (hextra m hm)
  have hfilter := hperm.filter (·.1 ∉ cs.map (·.key))
  rwa [List.filter_append, hkept] at hfilter

/-! ## Members as they are written -/

/-- The members of an object of values, as members of its tree. -/
def trees (ms : List (String × Value)) : List (String × Tree) :=
  ms.map fun (k, v) => (k, Tree.ofValue v)

theorem ofMembers_eq_intact (ms : List (String × Value)) :
    Tree.ofMembers ms = intact (trees ms) := by
  rw [Tree.ofMembers_eq_map, intact, trees, List.map_map]
  rfl

theorem others_trees {levels : Nat} {ms : List (String × Value)}
    (h : ∀ m ∈ ms, m.2.nesting ≤ levels) : Others (Reader.any levels) (trees ms) ms := by
  rw [Others, trees, List.forall₂_map_left_iff, List.forall₂_same]
  exact fun m hm => ⟨rfl, Reader.any_ofValue m.2 levels (h m hm)⟩

end Row

/-- A record is built from the row of its members. -/
theorem Reader.record_of_ofMembers {α : Type} {levels : Nat} {name : String}
    {cs : Nat → List (Column Tree)} {build : (levels : Nat) → Row (cs levels) → α}
    {ms : List (String × Tree)} {x : Except Failure (Row (cs levels) × List (String × Unit))}
    (h : Row.ofMembers (cs levels) skip .closed (Row.intact ms) = x) :
    record name cs build (levels + 1) (.object (Row.intact ms) .closed)
      = x.map fun p => build levels p.1 := by
  rw [record, h]

/-- A record is read from members that all belong to its columns. -/
theorem Reader.record_of_reads {α : Type} {levels : Nat} {name : String}
    {cs : Nat → List (Column Tree)} {build : (levels : Nat) → Row (cs levels) → α}
    {ms : List (String × Tree)} {row : Row (cs levels)} (hrow : Row.Reads (cs levels) ms row)
    (hms : ∀ m ∈ ms, m.1 ∈ (cs levels).map (·.key)) :
    record name cs build (levels + 1) (.object (Row.intact ms) .closed)
      = .ok (build levels row) := by
  have hnone : Row.remaining (cs levels) ms = [] :=
    List.filter_eq_nil_iff.2 fun m hm => by simpa using hms m hm
  have hrest : Row.Others skip (Row.remaining (cs levels) ms) [] := by
    rw [hnone]
    exact .nil
  exact record_of_ofMembers (Row.ofMembers_eq_ok_iff.2 ⟨hrow, hrest⟩)

/-! ## Members of which only some are looked for -/

namespace Row

/-- Exactly one of some members has a key, and this is its value. -/
def Only (ms : List (String × J)) (key : String) (j : J) : Prop :=
  ms.filter (·.1 = key) = [(key, j)]

theorem filter_filter_key {p : String × J → Bool} {key : String} {ms : List (String × J)}
    (hp : ∀ m, m.1 = key → p m = true) :
    (ms.filter p).filter (·.1 = key) = ms.filter (·.1 = key) := by
  rw [List.filter_filter]
  refine List.filter_congr fun m _ => ?_
  by_cases hm : m.1 = key
  · simp [hm, hp m hm]
  · simp [hm]

end Row

/-- A value of any kind can be read from a tree. -/
def Tree.IsValue (levels : Nat) (t : Tree) : Prop := ∃ v, Reader.any levels t = .ok v

namespace Row

variable {ms : List (String × Tree)} {rest : List (String × Value)} {levels : Nat}

theorem exists_others (h : ∀ m ∈ ms, m.2.IsValue levels) :
    ∃ rest, Others (Reader.any levels) ms rest := by
  induction ms with
  | nil => exact ⟨[], .nil⟩
  | cons m ms ih =>
    obtain ⟨v, hv⟩ := h m List.mem_cons_self
    obtain ⟨rest, hrest⟩ := ih fun n hn => h n (List.mem_cons_of_mem m hn)
    exact ⟨(m.1, v) :: rest, .cons ⟨rfl, hv⟩ hrest⟩

theorem Others.exists_mem {r : String × Value} (h : Others (Reader.any levels) ms rest)
    (hr : r ∈ rest) : ∃ m ∈ ms, m.1 = r.1 := by
  induction h with
  | nil => cases hr
  | cons hm _ ih =>
    obtain rfl | hr := List.mem_cons.1 hr
    · exact ⟨_, List.mem_cons_self, hm.1⟩
    · obtain ⟨m, hmem, hkey⟩ := ih hr
      exact ⟨m, List.mem_cons_of_mem _ hmem, hkey⟩

theorem Others.filter (h : Others (Reader.any levels) ms rest) (key : String) :
    Others (Reader.any levels) (ms.filter (·.1 = key)) (rest.filter (·.1 = key)) :=
  List.rel_filter (fun m r hm => by simp [hm.1]) h

end Row

/-! ## Documents of members -/

/-- A document is an object of members whose keys have no defect. -/
def Lists (d : Symbols) (ms : List (String × Tree)) : Prop :=
  Tree.ofTokens (Token.tokens d) = (.object (Row.intact ms) .closed, [])

/-- A document that lists members is decoded as the object of these members. -/
theorem Lists.decode {α : Type} {d : Symbols} {ms : List (String × Tree)} (h : Lists d ms)
    (r : Reader α) : Reader.decode r d = r maxLevels (.object (Row.intact ms) .closed) := by
  rw [Lists] at h
  rw [Reader.decode, h]
  dsimp only
  cases r maxLevels (.object (Row.intact ms) .closed) <;> rfl

/-- A written object lists its members. -/
theorem lists_text {ms : List (String × Value)} (h : (Value.object ms).Integral) :
    Lists (Symbols.ofString (Value.object ms).text) (Row.trees ms) := by
  rw [Lists, ← Row.ofMembers_eq_intact]
  exact Reader.ofTokens_of_lexes (Token.lexes_compact (.object ms) h)

end HistoryTree.Json
