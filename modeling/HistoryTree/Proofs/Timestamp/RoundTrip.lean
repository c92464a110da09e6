import HistoryTree.Timestamp.Parser
import HistoryTree.Timestamp.Printer
import Mathlib.Algebra.Group.Nat.Defs

/-!
# Time stamps written and read back

A number that is filled up with zeros reads as itself (`Text.valueOf_padded`), a part of fixed
width ends where its digits end, and the fraction is written in as many groups of digits as it has.
So the written form of a time stamp names what a clock shows of it (`Timestamp.parse_text`).  This
is the time stamp itself unless it lies in a leap second within a minute
(`Timestamp.asWritten_eq_self_iff`), and what a text names never does
(`Timestamp.not_isStray_of_parse`).
-/

namespace HistoryTree

namespace Text

/-! ## Numbers filled up with zeros -/

theorem valueOf_replicate_append (k : Nat) (ds : List Char) :
    valueOf (List.replicate k '0' ++ ds) = valueOf ds := by
  induction k with
  | zero => rfl
  | succ k ih =>
    rw [List.replicate_succ, List.cons_append, ← ih]
    rfl

theorem valueOf_padded (width n : Nat) : valueOf (padded width n) = n := by
  rw [padded, valueOf_replicate_append, valueOf_decimal]

theorem isDigit_of_mem_padded {width n : Nat} {c : Char} (h : c ∈ padded width n) :
    isDigit c = true := by
  rw [padded, List.mem_append] at h
  rcases h with h | h
  · obtain rfl := List.eq_of_mem_replicate h
    rfl
  · exact isDigit_of_mem_decimal h

theorem length_decimal_le {width n : Nat} (hwidth : width ≠ 0) (h : n < 10 ^ width) :
    (decimal n).length ≤ width := by
  induction width generalizing n with
  | zero => exact absurd rfl hwidth
  | succ width ih =>
    rw [decimal]
    split
    · simp
    · rw [List.length_append, List.length_singleton]
      refine Nat.succ_le_succ (ih ?_ ?_)
      · rintro rfl
        omega
      · rw [Nat.pow_succ] at h
        omega

theorem length_padded {width n : Nat} (hwidth : width ≠ 0) (h : n < 10 ^ width) :
    (padded width n).length = width := by
  have hle := length_decimal_le hwidth h
  rw [padded, List.length_append, List.length_replicate]
  omega

theorem exists_padded_eq_cons (width n : Nat) :
    ∃ c cs, padded width n = c :: cs ∧ isDigit c = true := by
  cases h : padded width n with
  | nil =>
    rw [padded, List.append_eq_nil_iff] at h
    exact absurd h.2 (decimal_ne_nil n)
  | cons c cs => exact ⟨c, cs, rfl, isDigit_of_mem_padded (h ▸ List.mem_cons_self)⟩

theorem trimStart_of_digit {c : Char} (hc : isDigit c = true) (s : List Char) :
    trimStart (c :: s) = c :: s := by
  have hblank : isBlank c = false := by
    simp only [isDigit, Bool.and_eq_true, decide_eq_true_eq] at hc
    simp only [isBlank, Bool.or_eq_false_iff, Bool.and_eq_false_iff, decide_eq_false_iff_not]
    omega
  rw [trimStart, List.dropWhile_cons_of_neg (by simp [hblank])]

theorem trimStart_padded (width n : Nat) (s : List Char) :
    trimStart (padded width n ++ s) = padded width n ++ s := by
  obtain ⟨c, cs, hcs, hc⟩ := exists_padded_eq_cons width n
  rw [hcs, List.cons_append, trimStart_of_digit hc]

end Text

namespace Timestamp

variable {ds rest : List Char} {width n : Nat}

/-! ## Numbers -/

/-- A number of a fixed width ends with it, and a shorter one where no digit follows. -/
def NumberEnds (width : Nat) (ds rest : List Char) : Prop :=
  ds.length = width ∨ (ds.length ≤ width ∧ ∀ c ∈ rest.head?, Text.isDigit c = false)

theorem spanDigits_append (hds : ∀ c ∈ ds, Text.isDigit c = true)
    (hends : NumberEnds width ds rest) : spanDigits width (ds ++ rest) = (ds, rest) := by
  induction ds generalizing width with
  | nil =>
    cases width with
    | zero => rfl
    | succ width =>
      obtain h | ⟨-, h⟩ := hends
      · cases h
      · cases rest with
        | nil => rfl
        | cons c rest =>
          have hc : Text.isDigit c = false := h c rfl
          rw [List.nil_append, spanDigits, if_neg (by simp [hc])]
  | cons c ds ih =>
    cases width with
    | zero =>
      obtain h | ⟨h, -⟩ := hends
      · cases h
      · exact absurd h (by simp)
    | succ width =>
      have hc : Text.isDigit c = true := hds c List.mem_cons_self
      have hends' : NumberEnds width ds rest := by
        obtain h | ⟨hle, hrest⟩ := hends
        · exact .inl (Nat.succ.inj h)
        · exact .inr ⟨Nat.le_of_succ_le_succ hle, hrest⟩
      rw [List.cons_append, spanDigits, if_pos hc,
        ih (fun d hd => hds d (List.mem_cons_of_mem c hd)) hends']

theorem number_padded {w : Nat} (hends : NumberEnds width (Text.padded w n) rest)
    (hn : n < UInt64.size / 2) : number width (Text.padded w n ++ rest) = .ok (n, rest) := by
  have hspan := spanDigits_append (fun c hc => Text.isDigit_of_mem_padded hc) hends
  have hvalue := Text.valueOf_padded w n
  obtain ⟨c, cs, hcs, -⟩ := Text.exists_padded_eq_cons w n
  rw [number, hspan]
  rw [hcs] at hvalue ⊢
  simp only [hvalue, if_pos hn]

theorem ranged_padded {low high : Nat} (hlow : low ≤ n) (hhigh : n ≤ high) (hn : high < 100) :
    ranged 2 low high (Text.padded 2 n ++ rest) = .ok (n, rest) := by
  have hlength : (Text.padded 2 n).length = 2 := Text.length_padded (by decide) (by omega)
  have hsize : n < UInt64.size / 2 := by
    rw [show UInt64.size / 2 = 9223372036854775808 from rfl]
    omega
  rw [ranged, Text.trimStart_padded, number_padded (.inl hlength) hsize]
  exact if_pos ⟨hlow, hhigh⟩

/-! ## Parts -/

theorem signed_of_number {y sign : Int} (hsign : sign * y.natAbs = y) (hlow : -262143 ≤ y)
    (hhigh : y ≤ 262142) (s : List Char) : signed sign (.ok (y.natAbs, s)) = .ok (y, s) := by
  have hmin : Int32.minValue.toInt = -2147483648 := by decide
  have hmax : Int32.maxValue.toInt = 2147483647 := by decide
  simp only [signed, hsign, hmin, hmax]
  exact if_pos (by omega)

/-- A year is followed by the mark in front of the month. -/
theorem year_yearChars {y : Int} (hlow : -262143 ≤ y) (hhigh : y ≤ 262142) (s : List Char) :
    year (yearChars y ++ '-' :: s) = .ok (y, '-' :: s) := by
  have hsize : y.natAbs < UInt64.size / 2 := by
    rw [show UInt64.size / 2 = 9223372036854775808 from rfl]
    omega
  rw [yearChars]
  split
  · have hlength : (Text.padded 4 y.natAbs).length = 4 :=
      Text.length_padded (by decide) (by omega)
    have hplain : year (Text.padded 4 y.natAbs ++ '-' :: s)
        = signed 1 (number 4 (Text.padded 4 y.natAbs ++ '-' :: s)) := by
      obtain ⟨c, cs, hcs, hc⟩ := Text.exists_padded_eq_cons 4 y.natAbs
      rw [year.eq_def, Text.trimStart_padded, hcs, List.cons_append]
      split
      · rename_i h
        cases h
        exact absurd hc (by decide)
      · rename_i h
        cases h
        exact absurd hc (by decide)
      · rfl
    rw [hplain, number_padded (.inl hlength) hsize, signed_of_number (by omega) hlow hhigh]
  · have hmark : ∀ c ∈ ('-' :: s).head?, Text.isDigit c = false := by
      rintro c ⟨⟩
      rfl
    have hends : NumberEnds (Text.padded 4 y.natAbs ++ '-' :: s).length
        (Text.padded 4 y.natAbs) ('-' :: s) := .inr ⟨by simp, hmark⟩
    split
    · show signed (-1) (number (Text.padded 4 y.natAbs ++ '-' :: s).length
          (Text.padded 4 y.natAbs ++ '-' :: s)) = _
      rw [number_padded hends hsize, signed_of_number (by omega) hlow hhigh]
    · show signed 1 (number (Text.padded 4 y.natAbs ++ '-' :: s).length
          (Text.padded 4 y.natAbs ++ '-' :: s)) = _
      rw [number_padded hends hsize, signed_of_number (by omega) hlow hhigh]

theorem fraction_padded {w : Nat} (hw : w ≠ 0) (hnine : w ≤ 9) (hn : n < 10 ^ w) :
    fraction ('.' :: Text.padded w n ++ ['Z']) = .ok (n * 10 ^ (9 - w), ['Z']) := by
  have hlength := Text.length_padded hw hn
  have hends : NumberEnds 9 (Text.padded w n) ['Z'] := by
    refine .inr ⟨by omega, ?_⟩
    rintro c ⟨⟩
    rfl
  have hspan := spanDigits_append (fun c hc => Text.isDigit_of_mem_padded hc) hends
  have hvalue := Text.valueOf_padded w n
  obtain ⟨c, cs, hcs, -⟩ := Text.exists_padded_eq_cons w n
  rw [List.cons_append, fraction, hspan]
  rw [hcs] at hvalue hlength ⊢
  simp only [hvalue, hlength]
  rfl

/-- A fraction is read as it is written, with none, three, six or nine digits. -/
theorem fraction_fractionChars (hn : n < 1000000000) :
    fraction (fractionChars n ++ ['Z']) = .ok (n, ['Z']) := by
  rw [fractionChars]
  split
  · subst n
    rfl
  split
  · rw [fraction_padded (by decide) (by decide) (by omega)]
    congr 2
    omega
  split
  · rw [fraction_padded (by decide) (by decide) (by omega)]
    congr 2
    omega
  · rw [fraction_padded (by decide) (by decide) (by omega)]
    simp

theorem mark_self {c : Char} (hc : Text.isBlank c = false) (s : List Char) :
    mark c (c :: s) = .ok s := by
  rw [mark, Text.trimStart, List.dropWhile_cons_of_neg (by simp [hc])]
  exact if_pos rfl

theorem daysInMonth_le (year : Int) (month : Nat) : daysInMonth year month ≤ 31 := by
  rw [daysInMonth.eq_def]
  split <;> try omega
  split <;> omega

theorem month_of_day {year : Int} {month : Nat} (h : 1 ≤ daysInMonth year month) :
    1 ≤ month ∧ month ≤ 12 := by
  rw [daysInMonth.eq_def] at h
  split at h <;> omega

end Timestamp

/-! ## What a clock shows -/

namespace Time

variable {t : Time}

/-- A leap second behind another second than the last one of a minute.  A clock shows it as the
second behind it. -/
def IsStray (t : Time) : Prop := 1000000000 ≤ t.nanosecond ∧ t.second ≠ 59

instance (t : Time) : Decidable t.IsStray := inferInstanceAs (Decidable (_ ∧ _))

/-- The second behind a leap second within a minute is one that a clock shows. -/
theorem IsStray.valid_next (h : t.IsStray) :
    Valid t.hour t.minute (t.second + 1) (t.nanosecond - 1000000000) := by
  obtain ⟨hhour, hminute, hsecond, hnanosecond⟩ := t.valid
  obtain ⟨hleap, hlast⟩ := h
  exact ⟨hhour, hminute, by omega, by omega⟩

/-- The time that is written for a time. -/
def asWritten (t : Time) : Time :=
  if h : t.IsStray then ⟨t.hour, t.minute, t.second + 1, t.nanosecond - 1000000000, h.valid_next⟩
  else t

theorem asWritten_of_not_isStray (h : ¬ t.IsStray) : t.asWritten = t := dif_neg h

/-- A time is written as it is exactly if a clock shows it. -/
theorem asWritten_eq_self_iff : t.asWritten = t ↔ ¬ t.IsStray := by
  refine ⟨fun heq h => ?_, asWritten_of_not_isStray⟩
  have hsecond := congrArg second heq
  rw [asWritten, dif_pos h] at hsecond
  exact absurd hsecond (Nat.succ_ne_self _)

/-- What a clock shows of a time names the time that is written for it. -/
theorem ofClock?_self (t : Time) :
    ofClock? t.hour t.minute t.clockSecond t.clockNanosecond = some t.asWritten := by
  obtain ⟨hhour, hminute, hsecond, hnanosecond⟩ := t.valid
  have hmod : t.clockNanosecond < 1000000000 := Nat.mod_lt _ (by decide)
  rw [ofClock?, if_pos hmod]
  by_cases hleap : 1000000000 ≤ t.nanosecond
  · have hs : t.clockSecond = t.second + 1 := by
      rw [clockSecond]
      omega
    have hn : t.clockNanosecond = t.nanosecond - 1000000000 := by
      rw [clockNanosecond]
      omega
    rw [hs, hn]
    by_cases hlast : t.second = 59
    · rw [if_pos (by omega), Nat.add_sub_cancel' hleap,
        asWritten_of_not_isStray fun h => h.2 hlast]
      rw [← hlast, of?_self]
    · have hstray : t.IsStray := ⟨hleap, hlast⟩
      rw [if_neg (by omega), of?, dif_pos hstray.valid_next, asWritten, dif_pos hstray]
  · have hs : t.clockSecond = t.second := by
      rw [clockSecond]
      omega
    have hn : t.clockNanosecond = t.nanosecond := by
      rw [clockNanosecond]
      omega
    rw [hs, hn, if_neg (by omega), of?_self, asWritten_of_not_isStray fun h => hleap h.1]

/-- The numbers of a clock name no leap second within a minute. -/
theorem not_isStray_of_ofClock? {hour minute second nanosecond : Nat}
    (h : ofClock? hour minute second nanosecond = some t) : ¬ t.IsStray := by
  rw [ofClock?] at h
  split at h
  case isFalse => cases h
  split at h
  all_goals
    rw [of?] at h
    split at h
    case isFalse => cases h
    cases h
    rintro ⟨hleap, hlast⟩
    dsimp only at hleap hlast
    omega

end Time

namespace Timestamp

variable {t : Timestamp}

/-- A time stamp in a leap second within a minute. -/
def IsStray (t : Timestamp) : Prop := t.time.IsStray

instance (t : Timestamp) : Decidable t.IsStray := inferInstanceAs (Decidable t.time.IsStray)

/-- The time stamp that the written form of a time stamp names. -/
def asWritten (t : Timestamp) : Timestamp := ⟨t.date, t.time.asWritten⟩

theorem asWritten_of_not_isStray (h : ¬ t.IsStray) : t.asWritten = t := by
  obtain ⟨date, time⟩ := t
  exact congrArg (Timestamp.mk date) (Time.asWritten_of_not_isStray h)

/-- A time stamp is written as itself unless it lies in a leap second within a minute. -/
theorem asWritten_eq_self_iff : t.asWritten = t ↔ ¬ t.IsStray :=
  ⟨fun h => Time.asWritten_eq_self_iff.1 (congrArg time h), asWritten_of_not_isStray⟩

/-! ## The whole text -/

/-- The written form of a time stamp names what is written for it. -/
theorem parse_text (t : Timestamp) : parse t.text = .ok t.asWritten := by
  obtain ⟨hlow, hhigh, hday, hdays⟩ := t.date.valid
  obtain ⟨hhour, hminute, hsecond, hnanosecond⟩ := t.time.valid
  have hmonth := month_of_day (Nat.le_trans hday hdays)
  have hmost := Nat.le_trans hdays (daysInMonth_le t.date.year t.date.month)
  have hclock : t.time.clockSecond ≤ 60 := by
    rw [Time.clockSecond]
    omega
  have hfraction : t.time.clockNanosecond < 1000000000 := Nat.mod_lt _ (by decide)
  have hhyphen : Text.isBlank '-' = false := by decide
  have hcolon : Text.isBlank ':' = false := by decide
  have hmonths : ∀ s, ranged 2 1 12 (Text.padded 2 t.date.month ++ s) = .ok (t.date.month, s) :=
    fun s => ranged_padded hmonth.1 hmonth.2 (by decide)
  have hdates : ∀ s, ranged 2 1 31 (Text.padded 2 t.date.day ++ s) = .ok (t.date.day, s) :=
    fun s => ranged_padded hday hmost (by decide)
  have hhours : ∀ s, ranged 2 0 23 (Text.padded 2 t.time.hour ++ s) = .ok (t.time.hour, s) :=
    fun s => ranged_padded (Nat.zero_le _) (by omega) (by decide)
  have hminutes : ∀ s,
      ranged 2 0 59 (Text.padded 2 t.time.minute ++ s) = .ok (t.time.minute, s) :=
    fun s => ranged_padded (Nat.zero_le _) (by omega) (by decide)
  have hseconds : ∀ s,
      ranged 2 0 60 (Text.padded 2 t.time.clockSecond ++ s) = .ok (t.time.clockSecond, s) :=
    fun s => ranged_padded (Nat.zero_le _) hclock (by decide)
  have hseparator : ∀ s, separator ('T' :: s) = .ok s := fun s => rfl
  have hoffset : offset (Text.trimStart ['Z']) = .ok (0, []) := rfl
  have hlocal : ofLocal? t.date t.time.asWritten 0 = some t.asWritten := ofLocal?_zero t.asWritten
  rw [parse, text, String.toList_ofList, chars]
  simp only [List.append_assoc, List.cons_append]
  simp only [parseChars, year_yearChars hlow hhigh, bind, Except.bind, mark_self hhyphen,
    mark_self hcolon, hmonths, hdates, hhours, hminutes, hseconds, hseparator,
    fraction_fractionChars hfraction, hoffset, Date.of?_self, Time.ofClock?_self, ofParts, hlocal]
  rfl

/-! ## What a text names -/

/-- A distance from UTC in minutes moves the second and the nanosecond to no other ones. -/
theorem time_of_ofLocal? {date : Date} {time : Time} {minutes : Int}
    (h : ofLocal? date time minutes = some t) :
    t.time.second = time.second ∧ t.time.nanosecond = time.nanosecond := by
  have hat : ∀ (d : Option Date) (total : Int), (do
      let moved ← Time.of? (total / 60).toNat (total % 60).toNat time.second time.nanosecond
      return (⟨← d, moved⟩ : Timestamp)) = some t →
      t.time.second = time.second ∧ t.time.nanosecond = time.nanosecond := by
    intro d total hd
    rw [Time.of?] at hd
    split at hd
    case isFalse => cases hd
    cases d with
    | none => cases hd
    | some d =>
      cases hd
      exact ⟨rfl, rfl⟩
  rw [ofLocal?] at h
  dsimp only at h
  split at h
  · exact hat _ _ h
  split at h
  · exact hat _ _ h
  · exact hat _ _ h

/-- What is put together from the parts of a written time is no leap second within a minute. -/
theorem not_isStray_of_ofParts {date : Option Date} {hour minute second nanosecond : Nat}
    {minutes : Int}
    (h : ofParts date (Time.ofClock? hour minute second nanosecond) minutes = .ok t) :
    ¬ t.IsStray := by
  rw [ofParts.eq_def] at h
  split at h
  case h_2 => cases h
  rename_i htime
  split at h
  case isFalse => cases h
  split at h
  case h_2 => cases h
  rename_i hlocal
  cases h
  obtain ⟨hsecond, hnanosecond⟩ := time_of_ofLocal? hlocal
  rw [IsStray, Time.IsStray, hsecond, hnanosecond]
  exact Time.not_isStray_of_ofClock? htime

theorem exists_of_bind {α β : Type} {c : Except Error α} {f : α → Except Error β} {b : β}
    (h : c >>= f = .ok b) : ∃ a, f a = .ok b := by
  cases c with
  | error e => cases h
  | ok a => exact ⟨a, h⟩

/-- No text names a time stamp in a leap second within a minute. -/
theorem not_isStray_of_parse {s : String} (h : parse s = .ok t) : ¬ t.IsStray := by
  rw [parse, parseChars] at h
  obtain ⟨⟨year, s₁⟩, h⟩ := exists_of_bind h
  obtain ⟨s₂, h⟩ := exists_of_bind h
  obtain ⟨⟨month, s₃⟩, h⟩ := exists_of_bind h
  obtain ⟨s₄, h⟩ := exists_of_bind h
  obtain ⟨⟨day, s₅⟩, h⟩ := exists_of_bind h
  obtain ⟨s₆, h⟩ := exists_of_bind h
  obtain ⟨⟨hour, s₇⟩, h⟩ := exists_of_bind h
  obtain ⟨s₈, h⟩ := exists_of_bind h
  obtain ⟨⟨minute, s₉⟩, h⟩ := exists_of_bind h
  obtain ⟨s₁₀, h⟩ := exists_of_bind h
  obtain ⟨⟨second, s₁₁⟩, h⟩ := exists_of_bind h
  obtain ⟨⟨nanosecond, s₁₂⟩, h⟩ := exists_of_bind h
  obtain ⟨⟨minutes, s₁₃⟩, h⟩ := exists_of_bind h
  dsimp only at h
  split at h
  · cases h
  · exact not_isStray_of_ofParts h

end Timestamp

end HistoryTree
