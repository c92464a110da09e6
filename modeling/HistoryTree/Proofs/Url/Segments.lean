import HistoryTree.Url.Path

/-!
# Texts as segments of a path

A text becomes a segment of a path by escaping it, and percent-decoding the segment gives the
text back (`percentDecode_percentEncode`, `bytes_injective`).  But not every text stays one
segment: the names for the place itself and the place above are left out, and tabs and line ends
are dropped.  `Path.push_eq` says what becomes of a text that is none of these, and
`Path.push_push` compares the others with it: a text followed by a word adds two segments, of
which the first one spells the text exactly if the text is whole, or it adds at most the word.
-/

namespace HistoryTree.Url

/-- The bytes of a text in UTF-8. -/
def bytes (s : List Char) : List UInt8 := s.flatMap String.utf8EncodeChar

/-- Texts of the same bytes are the same. -/
theorem bytes_injective {s t : List Char} (h : bytes s = bytes t) : s = t := by
  have hdecoded : s.utf8Encode.utf8Decode? = t.utf8Encode.utf8Decode? := by
    rw [List.utf8Encode, List.utf8Encode, ← bytes, ← bytes, h]
  rw [List.utf8Decode?_utf8Encode, List.utf8Decode?_utf8Encode] at hdecoded
  exact List.toArray_inj (Option.some.inj hdecoded)

/-! ## Escaping and back -/

theorem percentDecode_flatMap_escape (bs : List UInt8) (rest : List Char) :
    percentDecode (bs.flatMap escape ++ rest) = bs ++ percentDecode rest := by
  induction bs with
  | nil => rfl
  | cons b bs ih =>
    rw [List.flatMap_cons, List.append_assoc, percentDecode_escape, ih, List.cons_append]

theorem percentDecode_cons_of_ne {c : Char} (hc : c ≠ '%') (rest : List Char) :
    percentDecode (c :: rest) = String.utf8EncodeChar c ++ percentDecode rest := by
  rw [percentDecode.eq_def]
  split
  · rename_i h
    cases h
  · rename_i h
    cases h
    exact absurd rfl hc
  · rename_i h
    cases h
    rfl

/-- Decoding a text in which the percent sign is escaped gives its bytes. -/
theorem percentDecode_percentEncode {escaped : Char → Bool} (h : escaped '%' = true)
    (s : List Char) : percentDecode (percentEncode escaped s) = bytes s := by
  induction s with
  | nil => rfl
  | cons c s ih =>
    rw [percentEncode, List.flatMap_cons, ← percentEncode, bytes, List.flatMap_cons, ← bytes, ← ih]
    by_cases hc : escaped c = true
    · rw [if_pos hc, percentDecode_flatMap_escape]
    · rw [if_neg hc, List.singleton_append, percentDecode_cons_of_ne]
      rintro rfl
      exact hc h

/-- A segment spells a text if the text is what percent-decoding makes of it. -/
def Spells (segment s : List Char) : Prop := percentDecode segment = bytes s

/-- The segment that a text becomes. -/
def segmentOf (special : Bool) (s : List Char) : List Char :=
  percentEncode (escapedInSegment special) s

variable {special : Bool} {s t : List Char}

/-- A segment spells the text that it was written for, and no other. -/
theorem spells_segmentOf : Spells (segmentOf special t) s ↔ t = s := by
  have hpercent : escapedInSegment special '%' = true := by simp [escapedInSegment]
  rw [Spells, segmentOf, percentDecode_percentEncode hpercent]
  exact ⟨bytes_injective, congrArg bytes⟩

theorem spells_nil : Spells [] s ↔ s = [] :=
  ⟨fun h => (bytes_injective (s := []) h).symm, fun h => congrArg bytes h.symm⟩

/-! ## The names of places -/

theorem toLower_eq_iff {c d : Char} : c.toLower = d ↔
    if 65 ≤ c.toNat ∧ c.toNat ≤ 90 then c.toNat + 32 = d.toNat else c = d := by
  by_cases hupper : 65 ≤ c.toNat ∧ c.toNat ≤ 90
  · have hval : (c.val + 32).toNat = c.toNat + 32 := by
      rw [UInt32.toNat_add]
      exact Nat.mod_eq_of_lt (by show c.toNat + 32 < 2 ^ 32; omega)
    have hcond : c.val ≥ 'A'.val ∧ c.val ≤ 'Z'.val := hupper
    have hlower : c.toLower.val = c.val + 32 := congrArg Char.val (dif_pos hcond)
    rw [if_pos hupper, ← Char.toNat_inj, ← hval, ← hlower]
    rfl
  · have hcond : ¬ (c.val ≥ 'A'.val ∧ c.val ≤ 'Z'.val) := hupper
    have hlower : c.toLower = c := dif_neg hcond
    rw [if_neg hupper, hlower]

theorem eq_of_toLower_eq {c d : Char} (h : c.toLower = d) (hd : d.toNat < 97) : c = d := by
  rw [toLower_eq_iff] at h
  split at h
  · omega
  · exact h

/-- A full stop may be spelled by its code, in which the letter may be of either case. -/
theorem percentDecode_point {a b c : Char} (ha : a.toLower = '%') (hb : b.toLower = '2')
    (hc : c.toLower = 'e') (rest : List Char) :
    percentDecode (a :: b :: c :: rest) = bytes ['.'] ++ percentDecode rest := by
  obtain rfl := eq_of_toLower_eq ha (by decide)
  obtain rfl := eq_of_toLower_eq hb (by decide)
  have hdigit : hexValue? '2' = some 2 := by decide
  have hletter : hexValue? c = some 14 := by
    rw [toLower_eq_iff] at hc
    split at hc
    · obtain rfl : c = 'E' := Char.toNat_inj.1 (Nat.add_right_cancel hc)
      decide
    · subst hc
      decide
  simp only [percentDecode, hdigit, hletter]
  rfl

theorem percentDecode_literal_point {a : Char} (ha : a.toLower = '.') (rest : List Char) :
    percentDecode (a :: rest) = bytes ['.'] ++ percentDecode rest := by
  obtain rfl := eq_of_toLower_eq ha (by decide)
  exact percentDecode_cons_of_ne (by decide) rest

theorem percentDecode_of_isDot (h : isDot s = true) : percentDecode s = bytes ['.'] := by
  have h : s.map Char.toLower = ['.'] ∨ s.map Char.toLower = ['%', '2', 'e'] := by
    simpa [isDot] using h
  simp only [List.map_eq_cons_iff, List.map_eq_nil_iff] at h
  obtain ⟨a, _, rfl, ha, rfl⟩ | ⟨a, _, rfl, ha, b, _, rfl, hb, c, _, rfl, hc, rfl⟩ := h
  · exact percentDecode_literal_point ha []
  · exact percentDecode_point ha hb hc []

theorem percentDecode_of_isDoubleDot (h : isDoubleDot s = true) :
    percentDecode s = bytes ['.', '.'] := by
  have h : s.map Char.toLower = ['.', '.'] ∨ s.map Char.toLower = ['.', '%', '2', 'e'] ∨
      s.map Char.toLower = ['%', '2', 'e', '.'] ∨
      s.map Char.toLower = ['%', '2', 'e', '%', '2', 'e'] := by
    simpa [isDoubleDot] using h
  simp only [List.map_eq_cons_iff, List.map_eq_nil_iff] at h
  obtain ⟨a, _, rfl, ha, b, _, rfl, hb, rfl⟩ |
    ⟨a, _, rfl, ha, b, _, rfl, hb, c, _, rfl, hc, d, _, rfl, hd, rfl⟩ |
    ⟨a, _, rfl, ha, b, _, rfl, hb, c, _, rfl, hc, d, _, rfl, hd, rfl⟩ |
    ⟨a, _, rfl, ha, b, _, rfl, hb, c, _, rfl, hc, d, _, rfl, hd, e, _, rfl, he, f, _, rfl, hf,
      rfl⟩ := h
  · rw [percentDecode_literal_point ha, percentDecode_literal_point hb]
    rfl
  · rw [percentDecode_literal_point ha, percentDecode_point hb hc hd]
    rfl
  · rw [percentDecode_point ha hb hc, percentDecode_literal_point hd]
    rfl
  · rw [percentDecode_point ha hb hc, percentDecode_point hd he hf]
    rfl

/-- Only the name of the place itself becomes the segment for it. -/
theorem isDot_segmentOf : isDot (segmentOf special s) = true ↔ s = ['.'] := by
  constructor
  · intro h
    exact spells_segmentOf.1 (percentDecode_of_isDot h)
  · rintro rfl
    cases special <;> decide

/-- A segment stands for the directory above exactly if it was written for two dots. -/
theorem isDoubleDot_segmentOf : isDoubleDot (segmentOf special s) = true ↔ s = ['.', '.'] := by
  constructor
  · intro h
    exact spells_segmentOf.1 (percentDecode_of_isDoubleDot h)
  · rintro rfl
    cases special <;> decide

/-! ## Texts that stay whole -/

/-- The characters of a text that a segment keeps. -/
def kept (s : List Char) : List Char := s.filter fun c => c ≠ '\t' && c ≠ '\n' && c ≠ '\r'

/-- A text that becomes a segment as it stands: it is no name of a place, and holds no tab and no
line end. -/
structure IsWhole (s : List Char) : Prop where
  ne_dot : s ≠ ['.']
  ne_doubleDot : s ≠ ['.', '.']
  unbroken : ∀ c ∈ s, c ≠ '\t' ∧ c ≠ '\n' ∧ c ≠ '\r'

/-- A text is kept whole exactly if it has no tab and no line end. -/
theorem kept_eq_self_iff : kept s = s ↔ ∀ c ∈ s, c ≠ '\t' ∧ c ≠ '\n' ∧ c ≠ '\r' := by
  simp [kept, List.filter_eq_self, and_assoc]

/-- A word that stays whole wherever it stands: it is not empty, and names no drive. -/
structure IsWord (special : Bool) (w : List Char) : Prop extends IsWhole w where
  ne_nil : w ≠ []
  not_drive : isDrive (segmentOf special w) = false

theorem segmentOf_eq_nil (h : segmentOf special s = []) : s = [] :=
  spells_nil.1 (h ▸ spells_segmentOf.2 rfl)

namespace Path

variable {inFile : Bool} {p q : Path} {v w : List Char}

/-- The segments behind which a further one is put; the path of a single empty one has none. -/
def stem (p : Path) : Path := if p = [[]] then [] else p

/-- A path that keeps its segments when further ones are put behind them: in a file, where empty
ones at the start are left out, it starts with none. -/
def Clear (inFile : Bool) (p : Path) : Prop := inFile = true → p.stem.head? ≠ some []

theorem trimStart_append (hp : p.head? ≠ some []) (t : List Char) :
    trimStart (p ++ [t]) = p ++ [t] := by
  cases p with
  | nil => cases t <;> rfl
  | cons u rest =>
    cases u with
    | nil => exact absurd rfl hp
    | cons c u => rfl

theorem trim_append (hp : inFile = true → p.head? ≠ some []) (t : List Char) :
    (if inFile = true then trimStart (p ++ [t]) else p ++ [t]) = p ++ [t] := by
  split
  · rename_i hfile
    exact trimStart_append (hp hfile) t
  · rfl

theorem push_eq (hs : s ≠ ['.'] ∧ s ≠ ['.', '.']) : p.push special inFile s =
    (let p' := resolve inFile p.stem [segmentOf special (kept s)]
     if inFile then p'.trimStart else p') := by
  rw [push, if_neg (not_or.2 hs)]
  rfl

/-- A word is put behind the stem of a path. -/
theorem push_word (hp : p.Clear inFile) (hw : IsWord special w) :
    p.push special inFile w = p.stem ++ [segmentOf special w] := by
  have hkept : kept w = w := kept_eq_self_iff.2 hw.unbroken
  have hdot : ¬ isDot (segmentOf special w) = true := fun h => hw.ne_dot (isDot_segmentOf.1 h)
  have hdouble : ¬ isDoubleDot (segmentOf special w) = true :=
    fun h => hw.ne_doubleDot (isDoubleDot_segmentOf.1 h)
  rw [push_eq ⟨hw.ne_dot, hw.ne_doubleDot⟩, hkept, resolve, if_neg hdouble, if_neg hdot,
    hw.not_drive, Bool.and_false, if_neg Bool.false_ne_true]
  exact trim_append hp _

theorem stem_append_segmentOf (p : Path) (hw : IsWord special w) :
    (p ++ [segmentOf special w]).stem = p ++ [segmentOf special w] := by
  refine if_neg fun h => ?_
  cases p with
  | nil => exact hw.ne_nil (segmentOf_eq_nil (List.cons.inj h).1)
  | cons t rest => exact absurd (List.cons.inj h).2 (by simp)

theorem clear_append_segmentOf (hp : inFile = true → p.head? ≠ some []) (hw : IsWord special w) :
    (p ++ [segmentOf special w]).Clear inFile := by
  intro hfile
  rw [stem_append_segmentOf p hw]
  cases p with
  | nil =>
    intro h
    exact hw.ne_nil (segmentOf_eq_nil (Option.some.inj h))
  | cons t rest => exact hp hfile

theorem head_of_clear (hp : (p ++ [segmentOf special w]).Clear inFile) (hw : IsWord special w) :
    inFile = true → p.head? ≠ some [] := by
  intro hfile
  have hhead := hp hfile
  rw [stem_append_segmentOf p hw] at hhead
  cases p with
  | nil => exact nofun
  | cons t rest => exact hhead

theorem stem_append_nil (p : Path) : (p ++ [[]]).stem = if p = [] then [] else p ++ [[]] := by
  cases p <;> simp [stem]

/-- Behind a word, the directory above is where the word was put. -/
theorem parent_append_segmentOf (p : Path) (hw : IsWord special w) :
    (p ++ [segmentOf special w]).parent = p := by
  rw [parent, List.getLast?_concat]
  show (if isDrive (segmentOf special w) = true then _ else _) = _
  rw [hw.not_drive, if_neg Bool.false_ne_true, List.dropLast_concat]

/-- What becomes of a text behind a word: it adds a segment, which spells it if it is whole, or it
is a name of a place, and the path stays as it was or ends above. -/
theorem push_behind (hp : (p ++ [segmentOf special v]).Clear inFile) (hv : IsWord special v)
    (s : List Char) :
    let start := p ++ [segmentOf special v]
    (∃ x, (Spells x s ↔ IsWhole s) ∧ start.push special inFile s = start ++ [x]) ∨
    (¬ IsWhole s ∧
      (start.push special inFile s = start ∨ start.push special inFile s = p ++ [[]])) := by
  intro start
  have hstem : start.stem = start := stem_append_segmentOf p hv
  have hstart : inFile = true → start.head? ≠ some [] := hstem ▸ hp
  by_cases hname : s = ['.'] ∨ s = ['.', '.']
  · -- the text is left out
    exact .inr ⟨fun h => hname.elim h.ne_dot h.ne_doubleDot, .inl (if_pos hname)⟩
  have hne := not_or.1 hname
  have hpush : start.push special inFile s = _ := push_eq hne
  have hwhole : kept s ≠ s → ¬ IsWhole s := fun hs h => hs (kept_eq_self_iff.2 h.unbroken)
  rw [hstem] at hpush
  by_cases hdouble : kept s = ['.', '.']
  · -- what is kept of the text takes the word away
    rw [resolve, if_pos (isDoubleDot_segmentOf.2 hdouble), parent_append_segmentOf p hv] at hpush
    refine .inr ⟨hwhole fun h => hne.2 (h.symm.trans hdouble), .inr (hpush.trans ?_)⟩
    exact trim_append (head_of_clear hp hv) []
  rw [resolve, if_neg (mt isDoubleDot_segmentOf.1 hdouble)] at hpush
  by_cases hdot : kept s = ['.']
  · -- an empty segment stands for the text
    rw [if_pos (isDot_segmentOf.2 hdot)] at hpush
    refine .inl ⟨[], ?_, hpush.trans (trim_append hstart [])⟩
    rw [spells_nil]
    refine iff_of_false ?_ (hwhole fun h => hne.1 (h.symm.trans hdot))
    rintro rfl
    exact absurd hdot nofun
  · have hdrive : (inFile && start.isEmpty && isDrive (segmentOf special (kept s))) = false := by
      simp [start]
    rw [if_neg (mt isDot_segmentOf.1 hdot), hdrive, if_neg Bool.false_ne_true] at hpush
    refine .inl ⟨segmentOf special (kept s), ?_, hpush.trans (trim_append hstart _)⟩
    rw [spells_segmentOf, kept_eq_self_iff]
    exact ⟨fun h => ⟨hne.1, hne.2, h⟩, fun h => h.unbroken⟩

theorem head_append_of_ne_nil {p : Path} (hp : p ≠ []) (q : Path) :
    (p ++ q).head? = p.head? := by
  rw [List.head?_append, List.head?_eq_some_head hp, Option.some_or]

/-- A text behind a word, and another word behind the text: either the text adds a segment, which
spells it if it is whole, or the text does not count. -/
theorem push_push (hp : (p ++ [segmentOf special v]).Clear inFile) (hv : IsWord special v)
    (hw : IsWord special w) (s : List Char) :
    let start := p ++ [segmentOf special v]
    ∃ r, (start.push special inFile s).push special inFile w = r ++ [segmentOf special w] ∧
      (r ++ [segmentOf special w]).Clear inFile ∧
      ((∃ x, r = start ++ [x] ∧ (Spells x s ↔ IsWhole s)) ∨
        (¬ IsWhole s ∧ r.length ≤ start.length)) := by
  intro start
  have hstem : start.stem = start := stem_append_segmentOf p hv
  have hstart : inFile = true → start.head? ≠ some [] := hstem ▸ hp
  obtain ⟨x, hx, hpush⟩ | ⟨hwhole, hpush | hpush⟩ := push_behind hp hv s
  · have hhead : inFile = true → (start ++ [x]).head? ≠ some [] := by
      intro hfile
      rw [head_append_of_ne_nil (by simp [start])]
      exact hstart hfile
    have hlong : (start ++ [x]).stem = start ++ [x] := by
      refine if_neg fun h => ?_
      simpa [start] using congrArg List.length h
    refine ⟨start ++ [x], ?_, clear_append_segmentOf hhead hw, .inl ⟨x, rfl, hx⟩⟩
    rw [hpush, push_word (by rwa [Clear, hlong]) hw, hlong]
  · refine ⟨start, ?_, clear_append_segmentOf hstart hw, .inr ⟨hwhole, Nat.le_refl _⟩⟩
    rw [hpush, push_word hp hw, hstem]
  · have hclear : (p ++ [[]]).Clear inFile := by
      intro hfile
      rw [stem_append_nil]
      split
      · exact nofun
      · rename_i hne
        rw [head_append_of_ne_nil hne]
        exact head_of_clear hp hv hfile
    refine ⟨(p ++ [[]]).stem, ?_, clear_append_segmentOf ?_ hw, .inr ⟨hwhole, ?_⟩⟩
    · rw [hpush, push_word hclear hw]
    · exact hclear
    · rw [stem_append_nil]
      split
      · exact Nat.zero_le _
      · simp [start]

end Path

end HistoryTree.Url
