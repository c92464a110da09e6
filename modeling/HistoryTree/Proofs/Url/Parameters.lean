import HistoryTree.Proofs.Url.Segments
import HistoryTree.Url.Basic
import Mathlib.Data.String.Basic

/-!
# The parameters of a URL

A query is read as parameters: its parts between ampersands, each a name and a value in form
encoding.  What is written as a parameter is read back (`formDecode_formEncode`), whatever the texts
are, and it stands behind all parameters that were there before
(`parameters_withParameter`).  Nothing is written shorter than it is, so that a long value makes a long query
(`length_lt_withParameter`), and a long query a URL that is too long (`isTooLong_of_query`).
-/

namespace HistoryTree.Url

/-- A part of a query, read as a name and a value; an empty value may go without equals sign. -/
def parameterOf (part : List Char) : List UInt8 × List UInt8 :=
  (formDecode (part.takeWhile (· ≠ '=')), formDecode ((part.dropWhile (· ≠ '=')).drop 1))

/-- The parameters in a query. -/
def parametersIn (query : List Char) : List (List UInt8 × List UInt8) :=
  ((query.splitOn '&').filter (· ≠ [])).map parameterOf

/-- The parameters of a URL, each a name and a value, in order. -/
def parameters (u : Url) : List (List UInt8 × List UInt8) := parametersIn (u.query.getD [])

/-! ## Form encoding -/

/-- A byte that form encoding keeps is a character of its own, and none with a meaning. -/
theorem of_keptInForm {b : UInt8} (h : keptInForm b = true) :
    String.utf8EncodeChar (Char.ofNat b.toNat) = [b] ∧
      Char.ofNat b.toNat ∉ ['+', '%', '&', '='] := by
  have hall : ∀ n < 128, keptInForm (UInt8.ofNat n) = true →
      String.utf8EncodeChar (Char.ofNat n) = [UInt8.ofNat n] ∧
        Char.ofNat n ∉ ['+', '%', '&', '='] := by
    decide +kernel
  have hlt : b.toNat < 128 := by
    have hb : b < 0x80 := by
      rw [keptInForm, Bool.and_eq_true, decide_eq_true_eq] at h
      exact h.1
    exact UInt8.lt_iff_toNat_lt.1 hb
  have hb := hall b.toNat hlt
  rw [UInt8.ofNat_toNat] at hb
  exact hb h

theorem hexDigit_not_mem {n : Nat} (h : n < 16) : hexDigit n ∉ ['+', '%', '&', '='] :=
  (show ∀ n < 16, hexDigit n ∉ ['+', '%', '&', '='] by decide) n h

theorem hexDigits_not_mem (b : UInt8) :
    hexDigit (b.toNat / 16) ∉ ['+', '%', '&', '='] ∧
      hexDigit (b.toNat % 16) ∉ ['+', '%', '&', '='] := by
  have hb : b.toNat < 256 := UInt8.toNat_lt b
  exact ⟨hexDigit_not_mem (by omega), hexDigit_not_mem (by omega)⟩

/-- A byte in form encoding reads back, whatever follows it. -/
theorem formDecode_formByte (b : UInt8) (rest : List Char) :
    formDecode (formByte b ++ rest) = b :: formDecode rest := by
  rw [formByte]
  split
  · rename_i hkept
    obtain ⟨hencode, hc⟩ := of_keptInForm hkept
    simp only [List.mem_cons, not_or] at hc
    rw [formDecode, List.map_append, List.map_singleton, if_neg hc.1, List.singleton_append,
      percentDecode_cons_of_ne hc.2.1, hencode]
    rfl
  · split
    · rename_i hspace
      subst hspace
      rw [formDecode, List.map_append, List.map_singleton, if_pos rfl, List.singleton_append,
        percentDecode_cons_of_ne (by decide)]
      rfl
    · obtain ⟨hhigh, hlow⟩ := hexDigits_not_mem b
      have hescape : (escape b).map (fun c => if c = '+' then ' ' else c) = escape b := by
        simp only [List.mem_cons, not_or] at hhigh hlow
        simp [escape, hhigh.1, hlow.1]
      rw [formDecode, List.map_append, hescape, percentDecode_escape]
      rfl

/-- What is written in form encoding is read back. -/
theorem formDecode_formEncode (s : List Char) : formDecode (formEncode s) = bytes s := by
  have hbytes : ∀ bs : List UInt8, formDecode (bs.flatMap formByte) = bs := by
    intro bs
    induction bs with
    | nil => rfl
    | cons b bs ih => rw [List.flatMap_cons, formDecode_formByte, ih]
  exact hbytes (bytes s)

/-- Neither an ampersand nor an equals sign stands in a text in form encoding. -/
theorem not_mem_formEncode {c : Char} (hc : c = '&' ∨ c = '=') (s : List Char) :
    c ∉ formEncode s := by
  have hbyte : ∀ b : UInt8, c ∉ formByte b := by
    intro b
    rw [formByte]
    split
    · rename_i hkept
      have hkept := (of_keptInForm hkept).2
      simp only [List.mem_cons, not_or] at hkept
      rcases hc with rfl | rfl
      · simpa using Ne.symm hkept.2.2.1
      · simpa using Ne.symm hkept.2.2.2.1
    · split
      · rcases hc with rfl | rfl <;> decide
      · obtain ⟨hhigh, hlow⟩ := hexDigits_not_mem b
        simp only [List.mem_cons, not_or] at hhigh hlow
        rcases hc with rfl | rfl
        · simp [escape, Ne.symm hhigh.2.2.1, Ne.symm hlow.2.2.1]
        · simp [escape, Ne.symm hhigh.2.2.2.1, Ne.symm hlow.2.2.2.1]
  rw [formEncode, List.mem_flatMap]
  rintro ⟨b, -, hb⟩
  exact hbyte b hb

/-! ## Parameters at the end of a query -/

/-- A name and a value as they are written in a query. -/
def written (key value : String) : List Char :=
  formEncode key.toList ++ '=' :: formEncode value.toList

/-- A parameter is read as it is written. -/
theorem parameterOf_written (key value : String) :
    parameterOf (written key value) = (bytes key.toList, bytes value.toList) := by
  have hkey : ∀ c ∈ formEncode key.toList, (c ≠ '=' : Bool) = true := by
    intro c hc
    simp only [decide_eq_true_eq]
    rintro rfl
    exact not_mem_formEncode (.inr rfl) _ hc
  rw [parameterOf, written, List.takeWhile_append_of_pos hkey, List.dropWhile_append_of_pos hkey]
  simp [formDecode_formEncode]

theorem parametersIn_written (key value : String) :
    parametersIn (written key value) = [(bytes key.toList, bytes value.toList)] := by
  have hmem : '&' ∉ written key value := by simp [written, not_mem_formEncode]
  have hne : written key value ≠ [] := by simp [written]
  simp [parametersIn, List.splitOn_eq_singleton hmem, hne, parameterOf_written]

/-- Queries that are joined have the parameters of both. -/
theorem parametersIn_append (q q' : List Char) :
    parametersIn (q ++ '&' :: q') = parametersIn q ++ parametersIn q' := by
  rw [parametersIn, List.splitOn_append_cons_self, List.filter_append, List.map_append,
    ← parametersIn, ← parametersIn]

/-- A parameter that is added stands behind all others, as it was meant. -/
theorem parameters_withParameter (u : Url) (key value : String) :
    (u.withParameter key value).parameters
      = u.parameters ++ [(bytes key.toList, bytes value.toList)] := by
  rw [parameters, parameters, withParameter]
  cases hquery : u.query with
  | none => exact parametersIn_written key value
  | some q =>
    cases q with
    | nil => exact parametersIn_written key value
    | cons c q =>
      rw [← parametersIn_written key value]
      exact parametersIn_append (c :: q) (written key value)

/-! ## Lengths -/

theorem length_le_utf8ByteSize (cs : List Char) : cs.length ≤ (String.ofList cs).utf8ByteSize := by
  rw [String.utf8ByteSize_ofList]
  induction cs with
  | nil => exact Nat.le_refl 0
  | cons c cs ih =>
    have hc := c.utf8Size_pos
    rw [List.length_cons, String.utf8Len_cons]
    omega

theorem length_le_length_flatMap {α β : Type} {f : α → List β} (hf : ∀ a, f a ≠ [])
    (as : List α) : as.length ≤ (as.flatMap f).length := by
  induction as with
  | nil => exact Nat.le_refl 0
  | cons a as ih =>
    have ha := List.length_pos_of_ne_nil (hf a)
    rw [List.flatMap_cons, List.length_append, List.length_cons]
    omega

theorem formByte_ne_nil (b : UInt8) : formByte b ≠ [] := by
  rw [formByte]
  split
  · exact nofun
  · split <;> exact nofun

theorem length_le_length_formEncode (s : List Char) : s.length ≤ (formEncode s).length :=
  (length_le_length_flatMap (fun _ => String.utf8EncodeChar_ne_nil) s).trans
    (length_le_length_flatMap formByte_ne_nil _)

/-- A URL with a query that is longer than a URL may be is too long. -/
theorem isTooLong_of_query {u : Url} (h : maxLength < (u.query.getD []).length) :
    u.isTooLong = true := by
  refine decide_eq_true (Nat.lt_of_lt_of_le h (Nat.le_trans ?_ (length_le_utf8ByteSize _)))
  rw [chars]
  cases u.query with
  | none => exact Nat.zero_le _
  | some q =>
    simp only [Option.getD_some, List.length_append, List.length_cons]
    omega

/-- A parameter makes a query longer than its value. -/
theorem length_lt_withParameter (u : Url) (key value : String) :
    value.toList.length < ((u.withParameter key value).query.getD []).length := by
  have hparameter : value.toList.length
      < (formEncode key.toList ++ '=' :: formEncode value.toList).length := by
    have hvalue := length_le_length_formEncode value.toList
    rw [List.length_append, List.length_cons]
    omega
  rw [withParameter]
  split
  · exact hparameter
  · exact hparameter
  · rw [Option.getD_some, List.length_append, List.length_cons]
    omega

end HistoryTree.Url
