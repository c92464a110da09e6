import HistoryTree.Label
import Mathlib.Data.List.DropRight

/-!
# Stable labels

A label is a whole type name or what stands behind one of its separators, a slash or a dot
(`labelChars_cases`), and it is labelled by itself (`labelChars_labelChars`).  It holds a separator
only where the name ends in it (`slash_mem_labelChars_iff`, `dot_mem_labelChars_iff`).  So the label
of any name is what follows the last separator, where the one that the name ends in, if any, does
not count (`labelChars_eq`).
-/

namespace HistoryTree

open Text

variable {name : List Char}

/-! ## The end of a name -/

/-- A label is the end of the name. -/
theorem labelChars_suffix (name : List Char) : labelChars name <:+ name :=
  (lastPart_suffix '.' (lastPart '/' name)).trans (lastPart_suffix '/' name)

/-- Only the empty name has an empty label. -/
theorem labelChars_eq_nil_iff : labelChars name = [] ↔ name = [] := by
  rw [labelChars, lastPart_eq_nil_iff, lastPart_eq_nil_iff]

/-- A label ends as the name does. -/
theorem getLast?_labelChars (name : List Char) :
    (labelChars name).getLast? = name.getLast? := by
  rw [labelChars, getLast?_lastPart, getLast?_lastPart]

/-- A label is labelled by itself. -/
theorem labelChars_labelChars (name : List Char) :
    labelChars (labelChars name) = labelChars name := by
  -- The cut at the dot leaves an end of the segment, of which the cut at the slash takes nothing.
  have hslash : lastPart '/' (labelChars name) = labelChars name :=
    lastPart_of_suffix (lastPart_suffix '.' (lastPart '/' name))
  have hdot : lastPart '.' (labelChars name) = labelChars name :=
    lastPart_of_suffix (List.suffix_refl (labelChars name))
  calc labelChars (labelChars name)
      = lastPart '.' (lastPart '/' (labelChars name)) := rfl
    _ = lastPart '.' (labelChars name) := by rw [hslash]
    _ = labelChars name := hdot

/-! ## Separators -/

/-- A label has a slash in it exactly if the name ends in one. -/
theorem slash_mem_labelChars_iff : '/' ∈ labelChars name ↔ name.getLast? = some '/' := by
  constructor
  · intro hmem
    have hsegment : '/' ∈ lastPart '/' name := (lastPart_suffix '.' _).mem hmem
    exact mem_lastPart_iff.1 hsegment
  · intro hend
    exact List.mem_of_getLast? ((getLast?_labelChars name).trans hend)

theorem dot_mem_labelChars_iff : '.' ∈ labelChars name ↔ name.getLast? = some '.' := by
  rw [labelChars, mem_lastPart_iff, getLast?_lastPart]

/-- A label is the whole name, or it begins behind a separator in which the name does not end. -/
theorem labelChars_cases (name : List Char) :
    labelChars name = name ∨
      ∃ before sep, (sep = '/' ∨ sep = '.') ∧ name.getLast? ≠ some sep ∧
        name = before ++ sep :: labelChars name := by
  obtain ⟨hdot, -⟩ | ⟨before, hsegment, hnot, -⟩ := lastPart_cases '.' (lastPart '/' name)
  · have hlabel : labelChars name = lastPart '/' name := hdot
    obtain ⟨hslash, -⟩ | ⟨before, hname, hnot, -⟩ := lastPart_cases '/' name
    · exact .inl (hlabel.trans hslash)
    · rw [hlabel]
      exact .inr ⟨before, '/', .inl rfl, mt mem_lastPart_iff.2 hnot, hname⟩
  · have hend : name.getLast? ≠ some '.' := by
      rw [← getLast?_lastPart '/' name]
      exact mt mem_lastPart_iff.2 hnot
    obtain ⟨front, hfront⟩ := lastPart_suffix '/' name
    refine .inr ⟨front ++ before, '.', .inr rfl, hend, ?_⟩
    calc name = front ++ lastPart '/' name := hfront.symm
      _ = front ++ (before ++ '.' :: labelChars name) := congrArg (front ++ ·) hsegment
      _ = (front ++ before) ++ '.' :: labelChars name := by rw [List.append_assoc]

theorem rtakeWhile_of_eq_append {p : Char → Bool} {s before after : List Char} {x : Char}
    (hs : s = before ++ x :: after) (hx : ¬ p x) (hafter : ∀ y ∈ after, p y) :
    s.rtakeWhile p = after := by
  have hrest : ∀ y ∈ after.reverse, p y := fun y hy => hafter y (List.mem_reverse.1 hy)
  rw [hs, List.rtakeWhile, List.reverse_append, List.reverse_cons, List.append_assoc,
    List.takeWhile_append_of_pos hrest, List.singleton_append, List.takeWhile_cons_of_neg hx,
    List.append_nil, List.reverse_reverse]

/-- The label is what follows the last separator in which the name does not end. -/
theorem labelChars_eq (name : List Char) :
    labelChars name =
      name.rtakeWhile fun c => c = '/' ∨ c = '.' → name.getLast? = some c := by
  have hkept : ∀ c ∈ labelChars name, decide (c = '/' ∨ c = '.' → name.getLast? = some c) := by
    intro c hc
    rw [decide_eq_true_iff]
    rintro (rfl | rfl)
    · exact slash_mem_labelChars_iff.1 hc
    · exact dot_mem_labelChars_iff.1 hc
  obtain hwhole | ⟨before, sep, hsep, hend, hname⟩ := labelChars_cases name
  · rw [hwhole] at hkept ⊢
    exact (List.rtakeWhile_eq_self_iff.2 hkept).symm
  · have hcut : ¬ decide (sep = '/' ∨ sep = '.' → name.getLast? = some sep) := by
      rw [decide_eq_true_iff]
      exact fun h => hend (h hsep)
    exact (rtakeWhile_of_eq_append hname hcut hkept).symm

/-- A name that ends in no separator is labelled by what follows its last one. -/
theorem labelChars_eq_of_end (hslash : name.getLast? ≠ some '/')
    (hdot : name.getLast? ≠ some '.') :
    labelChars name = name.rtakeWhile fun c => c ≠ '/' ∧ c ≠ '.' := by
  rw [labelChars_eq]
  congr 1
  funext c
  rw [decide_eq_decide]
  constructor
  · intro h
    exact ⟨fun hc => hslash (hc ▸ h (.inl hc)), fun hc => hdot (hc ▸ h (.inr hc))⟩
  · rintro ⟨hnslash, hndot⟩ (hc | hc)
    · exact absurd hc hnslash
    · exact absurd hc hndot

/-! ## Labels as texts -/

/-- A label is an end of the type name, empty only where the name is, and the label of itself.  It
holds a separator only if the name ends in it; the label of a name that ends in none is what follows
the last one. -/
theorem labels_are_stable (s : String) :
    (label s).toList <:+ s.toList ∧
    (label s = "" ↔ s = "") ∧
    label (label s) = label s ∧
    ('/' ∈ (label s).toList ↔ s.toList.getLast? = some '/') ∧
    ('.' ∈ (label s).toList ↔ s.toList.getLast? = some '.') ∧
    (s.toList.getLast? ≠ some '/' → s.toList.getLast? ≠ some '.' →
      (label s).toList = s.toList.rtakeWhile fun c => c ≠ '/' ∧ c ≠ '.') := by
  refine ⟨?_, ?_, ?_, ?_, ?_, ?_⟩
  · rw [toList_label]
    exact labelChars_suffix s.toList
  · rw [← String.toList_eq_nil_iff, ← String.toList_eq_nil_iff, toList_label]
    exact labelChars_eq_nil_iff
  · rw [← String.toList_inj, toList_label, toList_label]
    exact labelChars_labelChars s.toList
  · rw [toList_label]
    exact slash_mem_labelChars_iff
  · rw [toList_label]
    exact dot_mem_labelChars_iff
  · intro hslash hdot
    rw [toList_label]
    exact labelChars_eq_of_end hslash hdot

/-- A name with dots in front of its last slash and one behind it. -/
theorem order_labelled :
    "github.com/acme/eats.Order".toList.getLast? ≠ some '/' ∧
    "github.com/acme/eats.Order".toList.getLast? ≠ some '.' ∧
    (label "github.com/acme/eats.Order").toList =
      "github.com/acme/eats.Order".toList.rtakeWhile (fun c => c ≠ '/' ∧ c ≠ '.') ∧
    label "github.com/acme/eats.Order" = "Order" := by
  have hslash : "github.com/acme/eats.Order".toList.getLast? ≠ some '/' := by decide
  have hdot : "github.com/acme/eats.Order".toList.getLast? ≠ some '.' := by decide
  have hlabel : (label "github.com/acme/eats.Order").toList =
      "github.com/acme/eats.Order".toList.rtakeWhile fun c => c ≠ '/' ∧ c ≠ '.' :=
    (labels_are_stable "github.com/acme/eats.Order").2.2.2.2.2 hslash hdot
  refine ⟨hslash, hdot, hlabel, ?_⟩
  rw [← String.toList_inj, hlabel]
  decide

example : label "x/a.b/" = "b/" ∧ label "x/a.b." = "a.b." ∧ label "x./" = "/" := by decide

end HistoryTree
