/-!
# Splitting a text at a separator

`splitLast?` cuts a text at the last occurrence of a character, and `lastPart` keeps
what follows it.  Main statement: the cut is the only one whose second half does not
hold the separator (`splitLast?_eq_some_iff`).  In the same way a text is cut at its first
separator in one way only (`eq_of_append_first`).  Nothing more is cut from a last part, nor from
what is left of it when its beginning is taken away (`lastPart_of_suffix`).
-/

namespace HistoryTree.Text

/-- The parts before and after the last `c`. -/
def splitLast? (c : Char) : List Char → Option (List Char × List Char)
  | [] => none
  | x :: rest =>
    match splitLast? c rest with
    | some (before, after) => some (x :: before, after)
    | none => if x = c then some ([], rest) else none

/-- What follows the last `c`; the whole text where nothing follows it or it is missing. -/
def lastPart (c : Char) (s : List Char) : List Char :=
  match splitLast? c s with
  | some (_, []) => s
  | some (_, after) => after
  | none => s

/-- The text without the characters `c` at its end. -/
def trimEnd (c : Char) (s : List Char) : List Char :=
  (s.reverse.dropWhile (· = c)).reverse

/-! ## The cut -/

theorem splitLast?_eq_none_iff {c : Char} {s : List Char} : splitLast? c s = none ↔ c ∉ s := by
  induction s with
  | nil => simp [splitLast?]
  | cons x rest ih =>
    rw [splitLast?]
    cases h : splitLast? c rest with
    | some p => simp [show c ∈ rest by simpa [h] using ih]
    | none =>
      have hc : c ∉ rest := ih.1 h
      by_cases hx : x = c
      · simp [hx]
      · simp [hx, hc, Ne.symm hx]

theorem splitLast?_append {c : Char} {a b : List Char} (hb : c ∉ b) :
    splitLast? c (a ++ c :: b) = some (a, b) := by
  induction a with
  | nil => simp [splitLast?, splitLast?_eq_none_iff.2 hb]
  | cons x rest ih => simp [splitLast?, ih]

/-- The cut is at the last separator, and at no other place. -/
theorem splitLast?_eq_some_iff {c : Char} {s a b : List Char} :
    splitLast? c s = some (a, b) ↔ s = a ++ c :: b ∧ c ∉ b := by
  constructor
  · intro h
    induction s generalizing a with
    | nil => simp [splitLast?] at h
    | cons x rest ih =>
      rw [splitLast?] at h
      cases hr : splitLast? c rest with
      | some p =>
        obtain ⟨before, after⟩ := p
        simp only [hr, Option.some.injEq, Prod.mk.injEq] at h
        obtain ⟨rfl, rfl⟩ := h
        obtain ⟨hs, hb⟩ := ih hr
        exact ⟨by simp [hs], hb⟩
      | none =>
        by_cases hx : x = c
        · simp only [hr, hx, if_pos, Option.some.injEq, Prod.mk.injEq] at h
          obtain ⟨rfl, rfl⟩ := h
          exact ⟨by simp [hx], splitLast?_eq_none_iff.1 hr⟩
        · simp [hr, hx] at h
  · rintro ⟨rfl, hb⟩
    exact splitLast?_append hb

/-! ## The last part -/

section LastPart

variable {c : Char} {s t : List Char}

theorem lastPart_of_not_mem (h : c ∉ s) : lastPart c s = s := by
  simp [lastPart, splitLast?_eq_none_iff.2 h]

theorem lastPart_of_getLast? (h : s.getLast? = some c) : lastPart c s = s := by
  obtain ⟨a, rfl⟩ := List.getLast?_eq_some_iff.1 h
  have hcut : splitLast? c (a ++ [c]) = some (a, []) := splitLast?_append List.not_mem_nil
  simp [lastPart, hcut]

/-- A text without the separator or with one at its end stays whole; of any other the part behind
the last separator is kept. -/
theorem lastPart_cases (c : Char) (s : List Char) :
    (lastPart c s = s ∧ (c ∉ s ∨ s.getLast? = some c)) ∨
      ∃ before, s = before ++ c :: lastPart c s ∧ c ∉ lastPart c s ∧ lastPart c s ≠ [] := by
  cases hcut : splitLast? c s with
  | none =>
    have hc : c ∉ s := splitLast?_eq_none_iff.1 hcut
    exact .inl ⟨lastPart_of_not_mem hc, .inl hc⟩
  | some parts =>
    obtain ⟨before, after⟩ := parts
    obtain ⟨hs, hafter⟩ := splitLast?_eq_some_iff.1 hcut
    cases after with
    | nil =>
      have hend : s.getLast? = some c := List.getLast?_eq_some_iff.2 ⟨before, hs⟩
      exact .inl ⟨lastPart_of_getLast? hend, .inr hend⟩
    | cons x rest =>
      have hpart : lastPart c s = x :: rest := by simp [lastPart, hcut]
      rw [hpart]
      exact .inr ⟨before, hs, hafter, List.cons_ne_nil x rest⟩

theorem lastPart_suffix (c : Char) (s : List Char) : lastPart c s <:+ s := by
  obtain ⟨hwhole, -⟩ | ⟨before, hs, -, -⟩ := lastPart_cases c s
  · exact ⟨[], hwhole⟩
  · exact ⟨before ++ [c], by simpa using hs.symm⟩

theorem lastPart_eq_nil_iff : lastPart c s = [] ↔ s = [] := by
  obtain ⟨hwhole, -⟩ | ⟨before, hs, -, hne⟩ := lastPart_cases c s
  · rw [hwhole]
  · exact iff_of_false hne (by rw [hs]; simp)

theorem getLast?_of_suffix (h : t <:+ s) (ht : t ≠ []) : t.getLast? = s.getLast? := by
  rw [List.getLast?_eq_some_getLast ht, List.getLast?_eq_some_getLast (h.ne_nil ht), h.getLast ht]

/-- The last part ends as the text does. -/
theorem getLast?_lastPart (c : Char) (s : List Char) : (lastPart c s).getLast? = s.getLast? := by
  by_cases hs : s = []
  · rw [lastPart_eq_nil_iff.2 hs, hs]
  · exact getLast?_of_suffix (lastPart_suffix c s) (mt lastPart_eq_nil_iff.1 hs)

/-- The separator stands in the last part only where the text ends in it. -/
theorem mem_lastPart_iff : c ∈ lastPart c s ↔ s.getLast? = some c := by
  constructor
  · intro hmem
    obtain ⟨hwhole, hnot | hend⟩ | ⟨-, -, hnot, -⟩ := lastPart_cases c s
    · exact absurd (hwhole ▸ hmem) hnot
    · exact hend
    · exact absurd hmem hnot
  · intro hend
    exact List.mem_of_getLast? ((getLast?_lastPart c s).trans hend)

/-- Of a last part, and of any end of one, nothing more is cut. -/
theorem lastPart_of_suffix (h : t <:+ lastPart c s) : lastPart c t = t := by
  by_cases hmem : c ∈ t
  · -- The text ends in the separator then, and so does every end of it that is not empty.
    have hend : s.getLast? = some c := mem_lastPart_iff.1 (h.mem hmem)
    rw [← getLast?_lastPart c s, ← getLast?_of_suffix h (List.ne_nil_of_mem hmem)] at hend
    exact lastPart_of_getLast? hend
  · exact lastPart_of_not_mem hmem

end LastPart

/-! ## Texts that are cut alike -/

/-- A text has one part before its first separator. -/
theorem eq_of_append_first {c : Char} {a a' b b' : List Char} (ha : c ∉ a) (ha' : c ∉ a')
    (h : a ++ c :: b = a' ++ c :: b') : a = a' ∧ b = b' := by
  induction a generalizing a' with
  | nil =>
    cases a' with
    | nil => exact ⟨rfl, (List.cons.inj h).2⟩
    | cons y ys =>
      obtain ⟨rfl, -⟩ := List.cons.inj h
      exact absurd List.mem_cons_self ha'
  | cons x xs ih =>
    cases a' with
    | nil =>
      obtain ⟨rfl, -⟩ := List.cons.inj h
      exact absurd List.mem_cons_self ha
    | cons y ys =>
      obtain ⟨rfl, hrest⟩ := List.cons.inj h
      have hxs : c ∉ xs := mt (List.mem_cons_of_mem x) ha
      have hys : c ∉ ys := mt (List.mem_cons_of_mem x) ha'
      obtain ⟨rfl, hb⟩ := ih hxs hys hrest
      exact ⟨rfl, hb⟩

/-- A text has one part behind its last separator. -/
theorem eq_of_append_last {c : Char} {a a' b b' : List Char} (hb : c ∉ b) (hb' : c ∉ b')
    (h : a ++ c :: b = a' ++ c :: b') : a = a' ∧ b = b' := by
  have hcut : splitLast? c (a ++ c :: b) = some (a', b') :=
    splitLast?_eq_some_iff.2 ⟨h, hb'⟩
  rw [splitLast?_append hb] at hcut
  cases hcut
  exact ⟨rfl, rfl⟩

end HistoryTree.Text
