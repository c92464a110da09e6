/-!
# Decimal numerals

Whole numbers written with the digits `0` to `9`, without leading zeros, and read
back.  Main statements: a written number has only digits (`isDigit_of_mem_decimal`),
has no leading zero (`decimal_head`), and reads back as itself
(`valueOf_decimal`), so different integers are written differently (`decimalInt_injective`).
-/

namespace HistoryTree.Text

/-- The digit for a number below ten. -/
def digit (n : Nat) : Char := Char.ofNat (48 + n)

/-- Whether a character is one of `0` to `9`. -/
def isDigit (c : Char) : Bool := 48 ≤ c.toNat && c.toNat ≤ 57

/-- The number that a digit stands for. -/
def digitValue (c : Char) : Nat := c.toNat - 48

/-- The number that a list of digits stands for. -/
def valueOf (ds : List Char) : Nat := ds.foldl (fun n c => 10 * n + digitValue c) 0

/-- A number in decimal, without leading zeros. -/
def decimal (n : Nat) : List Char :=
  if n < 10 then [digit n] else decimal (n / 10) ++ [digit (n % 10)]

/-- An integer in decimal, with a minus sign below zero. -/
def decimalInt (n : Int) : List Char :=
  if n < 0 then '-' :: decimal n.natAbs else decimal n.natAbs

/-- A number in decimal with at least `width` digits, filled up with zeros. -/
def padded (width n : Nat) : List Char :=
  List.replicate (width - (decimal n).length) '0' ++ decimal n

/-! ## Laws -/

theorem toNat_digit {n : Nat} (h : n < 10) : (digit n).toNat = 48 + n :=
  (show ∀ n < 10, (digit n).toNat = 48 + n by decide) n h

theorem isDigit_digit {n : Nat} (h : n < 10) : isDigit (digit n) = true := by
  simp [isDigit, toNat_digit h]
  omega

theorem digitValue_digit {n : Nat} (h : n < 10) : digitValue (digit n) = n := by
  simp [digitValue, toNat_digit h]

theorem valueOf_concat (ds : List Char) (c : Char) :
    valueOf (ds ++ [c]) = 10 * valueOf ds + digitValue c := by
  simp [valueOf, List.foldl_append]

theorem isDigit_of_mem_decimal {n : Nat} {c : Char} (h : c ∈ decimal n) : isDigit c = true := by
  fun_induction decimal n with
  | case1 n hn =>
    obtain rfl : c = digit n := by simpa using h
    exact isDigit_digit hn
  | case2 n hn ih =>
    rcases List.mem_append.1 h with h | h
    · exact ih h
    · obtain rfl : c = digit (n % 10) := by simpa using h
      exact isDigit_digit (Nat.mod_lt n (by omega))

/-- Reading a written number gives the number back. -/
theorem valueOf_decimal (n : Nat) : valueOf (decimal n) = n := by
  fun_induction decimal n with
  | case1 n hn => simp [valueOf, digitValue_digit hn]
  | case2 n hn ih =>
    rw [valueOf_concat, ih, digitValue_digit (Nat.mod_lt n (by omega))]
    omega

theorem decimal_ne_nil (n : Nat) : decimal n ≠ [] := by
  fun_induction decimal n with
  | case1 n hn => simp
  | case2 n hn ih => simp

/-- Only zero is written with a zero in front. -/
theorem decimal_head (n : Nat) {ds : List Char} (h : decimal n = '0' :: ds) :
    n = 0 ∧ ds = [] := by
  fun_induction decimal n generalizing ds with
  | case1 n hn =>
    simp only [List.cons.injEq] at h
    have hv := digitValue_digit hn
    rw [h.1] at hv
    exact ⟨by simpa [digitValue] using hv.symm, h.2.symm⟩
  | case2 n hn ih =>
    cases hd : decimal (n / 10) with
    | nil => exact absurd hd (decimal_ne_nil _)
    | cons x xs =>
      rw [hd, List.cons_append, List.cons.injEq] at h
      obtain ⟨rfl, -⟩ := h
      have := (ih hd).1
      omega

/-- Different numbers are written differently. -/
theorem decimal_injective {m n : Nat} (h : decimal m = decimal n) : m = n := by
  rw [← valueOf_decimal m, h, valueOf_decimal]

theorem isDigit_of_mem_decimalInt {n : Int} {c : Char} (h : c ∈ decimalInt n) :
    c = '-' ∨ isDigit c = true := by
  rw [decimalInt] at h
  split at h
  · rcases List.mem_cons.1 h with h | h
    · exact .inl h
    · exact .inr (isDigit_of_mem_decimal h)
  · exact .inr (isDigit_of_mem_decimal h)

/-- A number has no sign in front. -/
theorem decimal_ne_minus (n : Nat) (ds : List Char) : decimal n ≠ '-' :: ds := by
  intro h
  have hdigit : isDigit '-' = true :=
    isDigit_of_mem_decimal (n := n) (by rw [h]; exact List.mem_cons_self)
  exact absurd hdigit (by decide)

/-- Different integers are written differently. -/
theorem decimalInt_injective {m n : Int} (h : decimalInt m = decimalInt n) : m = n := by
  by_cases hm : m < 0
  · by_cases hn : n < 0
    · rw [decimalInt, decimalInt, if_pos hm, if_pos hn] at h
      have habs : m.natAbs = n.natAbs := decimal_injective (List.cons.inj h).2
      omega
    · rw [decimalInt, decimalInt, if_pos hm, if_neg hn] at h
      exact absurd h.symm (decimal_ne_minus _ _)
  · by_cases hn : n < 0
    · rw [decimalInt, decimalInt, if_neg hm, if_pos hn] at h
      exact absurd h (decimal_ne_minus _ _)
    · rw [decimalInt, decimalInt, if_neg hm, if_neg hn] at h
      have habs : m.natAbs = n.natAbs := decimal_injective h
      omega

end HistoryTree.Text
