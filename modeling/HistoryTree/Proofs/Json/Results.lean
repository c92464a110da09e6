import HistoryTree.Json.Record

/-!
# What readers can give

`Reader.Gives` says what all values of a reader are like, whatever tree they are read from.  A list
has only items of its reader (`Reader.Gives.list`).  A row has in each column a value that the
column read, or its value for a missing field (`Row.Given`), be it from the members of an object
(`Row.given_ofMembers`) or from the items of an array (`Row.given_ofItems`).
-/

namespace HistoryTree.Json

variable {α J ρ : Type}

theorem exists_of_map {α β : Type} {c : Except Failure α} {f : α → β} {b : β}
    (h : c.map f = .ok b) : ∃ a, c = .ok a ∧ f a = b := by
  cases c with
  | error e => cases h
  | ok a => exact ⟨a, rfl, Except.ok.inj h⟩

/-- A refused tree is no value. -/
theorem Tree.refuse_ne_ok (expected : String) (t : Tree) (a : α) : t.refuse expected ≠ .ok a := by
  rw [refuse]
  split <;> exact nofun

/-! ## Single values and lists -/

/-- All values of a reader have a property. -/
def Reader.Gives (r : Reader α) (P : α → Prop) : Prop := ∀ levels t a, r levels t = .ok a → P a

namespace Reader

variable {r : Reader α} {P : α → Prop}

/-- What is read may be absent; if it is there, it is what is given. -/
theorem Gives.optional (h : r.Gives P) : (optional r).Gives fun o => ∀ a ∈ o, P a := by
  intro levels t o ho a ha
  have hread : (r levels t).map some = .ok o := by
    cases t with
    | null =>
      cases ho
      cases ha
    | bool | number | string | array | object | garbled | hole => exact ho
  obtain ⟨b, hb, rfl⟩ := exists_of_map hread
  obtain rfl := Option.some.inj ha
  exact h levels t b hb

theorem Gives.items (h : r.Gives P) {levels : Nat} {ending : Ending} {ts : List Tree}
    {as : List α} (has : items (r levels) ending ts = .ok as) : ∀ a ∈ as, P a := by
  induction ts generalizing as with
  | nil =>
    rw [Reader.items] at has
    obtain ⟨u, -, rfl⟩ := exists_of_map has
    exact List.forall_mem_nil _
  | cons t ts ih =>
    rw [Reader.items] at has
    cases ht : r levels t with
    | error e => simp [ht] at has
    | ok b =>
      cases hts : Reader.items (r levels) ending ts with
      | error e => simp [ht, hts] at has
      | ok bs =>
        simp only [ht, hts] at has
        cases has
        exact List.forall_mem_cons.2 ⟨h levels t b ht, ih hts⟩

/-- A list is made of what is given for each element. -/
theorem Gives.list (h : r.Gives P) : (list r).Gives fun as => ∀ a ∈ as, P a := by
  intro levels t as has
  rw [Reader.list.eq_def] at has
  split at has
  · cases has
  · exact h.items has
  · exact absurd has (Tree.refuse_ne_ok _ _ as)

/-- What a document is decoded to is what its reader gives. -/
theorem Gives.of_decode (h : r.Gives P) {d : Symbols} {a : α} (ha : decode r d = .ok a) : P a := by
  rw [decode] at ha
  dsimp only at ha
  split at ha
  · cases ha
  · rename_i b hb
    split at ha
    · cases ha
      exact h _ _ a hb
    · cases ha

end Reader

/-! ## Rows -/

/-- A value that a column can hold: one that it read, or the one for a missing field. -/
def Column.Holds (c : Column J) (a : c.Value) : Prop :=
  c.absent = some a ∨ ∃ j, c.read j = .ok a

/-- A row of values that its columns can hold. -/
def Row.Given : (cs : List (Column J)) → Row cs → Prop
  | [], _ => True
  | c :: cs, (a, row) => c.Holds a ∧ Given cs row

namespace Draft

/-- A draft of values that its columns read. -/
def Given : (cs : List (Column J)) → Draft cs → Prop
  | [], _ => True
  | c :: cs, (v, d) => (∀ a ∈ v, ∃ j, c.read j = .ok a) ∧ Given cs d

theorem given_empty : (cs : List (Column J)) → Given cs (empty cs)
  | [] => trivial
  | _ :: cs => ⟨nofun, given_empty cs⟩

/-- A member that is entered into a row of given values is such a value. -/
theorem Given.enter {key : String} {j : J} {cs : List (Column J)} {d d' : Draft cs}
    (hd : Given cs d) (h : d.enter key j cs = .ok (some d')) : Given cs d' := by
  induction cs with
  | nil => cases h
  | cons c cs ih =>
    obtain ⟨v, d⟩ := d
    obtain ⟨hv, hd⟩ := hd
    rw [Draft.enter.eq_def] at h
    dsimp only at h
    split at h
    · cases v with
      | some a => cases h
      | none =>
        dsimp only at h
        split at h
        · rename_i a hread
          cases h
          refine ⟨?_, hd⟩
          rintro b ⟨⟩
          exact ⟨j, hread⟩
        · cases h
    · split at h
      · rename_i d₁ henter
        cases h
        exact ⟨hv, ih hd henter⟩
      · cases h
      · cases h

theorem Given.finish {cs : List (Column J)} {d : Draft cs} {row : Row cs} (hd : Given cs d)
    (h : d.finish cs = .ok row) : Row.Given cs row := by
  induction cs with
  | nil => trivial
  | cons c cs ih =>
    obtain ⟨v, d⟩ := d
    obtain ⟨hv, hd⟩ := hd
    rw [Draft.finish] at h
    split at h
    · cases h
    rename_i a ha
    split at h
    case h_2 => cases h
    rename_i row' hrow
    cases h
    refine ⟨?_, ih hd hrow⟩
    cases v with
    | none => exact .inl ha
    | some b =>
      cases ha
      exact .inr (hv a rfl)

end Draft

namespace Row

/-- Members that are collected behind given values leave all values given: the induction is on the
members. -/
theorem given_collect {cs : List (Column J)} {other : J → Except Failure ρ} {ending : Ending}
    {d d' : Draft cs} {ms : List (Scan String × J)} {rest : List (String × ρ)}
    (hd : Draft.Given cs d) (h : collect cs other ending d ms = .ok (d', rest)) :
    Draft.Given cs d' := by
  induction ms generalizing d rest with
  | nil =>
    rw [collect] at h
    obtain ⟨u, -, heq⟩ := exists_of_map h
    cases heq
    exact hd
  | cons m ms ih =>
    obtain ⟨k, t⟩ := m
    rw [collect] at h
    split at h
    · cases h
    split at h
    · cases h
    · rename_i d₁ henter
      exact ih (hd.enter henter) h
    · split at h
      · cases h
      split at h
      · cases h
      rename_i d₁ rest₁ hcollect
      cases h
      exact ih hd hcollect

/-- What is read from the members of an object are values of the columns. -/
theorem given_ofMembers {cs : List (Column J)} {other : J → Except Failure ρ} {ending : Ending}
    {ms : List (Scan String × J)} {row : Row cs} {rest : List (String × ρ)}
    (h : ofMembers cs other ending ms = .ok (row, rest)) : Given cs row := by
  rw [ofMembers] at h
  split at h
  case h_2 => cases h
  rename_i d rest₁ hcollect
  obtain ⟨row₁, hfinish, heq⟩ := exists_of_map h
  cases heq
  exact (given_collect (Draft.given_empty cs) hcollect).finish hfinish

/-- What is read from the items of an array are values of the columns. -/
theorem given_ofItems {expected : String} {ending : Ending} {n : Nat} {cs : List (Column Tree)}
    {ts : List Tree} {row : Row cs} (h : ofItems expected ending n cs ts = .ok row) :
    Given cs row := by
  induction cs generalizing n ts with
  | nil => trivial
  | cons c cs ih =>
    cases ts with
    | nil =>
      rw [ofItems.eq_def] at h
      dsimp only at h
      split at h
      · cases h
      · cases h
      · rename_i a ha
        obtain ⟨row', hrest, rfl⟩ := exists_of_map h
        exact ⟨.inl ha, ih hrest⟩
    | cons t ts =>
      rw [ofItems] at h
      split at h
      · cases h
      · rename_i a hread
        obtain ⟨row', hrest, rfl⟩ := exists_of_map h
        exact ⟨.inr ⟨t, hread⟩, ih hrest⟩

end Row

/-- A record is built from values of its columns. -/
theorem Reader.exists_of_record {name : String} {cs : Nat → List (Column Tree)}
    {build : (levels : Nat) → Row (cs levels) → α} {levels : Nat} {t : Tree} {a : α}
    (h : Reader.record name cs build levels t = .ok a) :
    ∃ inner row, Row.Given (cs inner) row ∧ build inner row = a := by
  rw [Reader.record.eq_def] at h
  split at h
  · cases h
  · cases h
  · obtain ⟨p, hrow, rfl⟩ := exists_of_map h
    exact ⟨_, p.1, Row.given_ofMembers hrow, rfl⟩
  · obtain ⟨row, hrow, rfl⟩ := exists_of_map h
    exact ⟨_, row, Row.given_ofItems hrow, rfl⟩
  · exact absurd h (Tree.refuse_ne_ok _ _ a)

end HistoryTree.Json
