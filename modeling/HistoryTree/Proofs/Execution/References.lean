import HistoryTree.Violation

/-!
# References read back

A reference is a text in which something stands on both sides of the last slash, and it is the text
form of the execution that it names.  An execution is read back from its text form unless an id is
empty or the run holds a slash: then the cut is made behind the slash, and another execution of
the same text form is read, if any (`Execution.references_read_back`).
-/

namespace HistoryTree.Execution

open Text

variable {s : String} {x y : Execution}

/-- A text is parsed to an execution exactly if it is one that stands for it. -/
theorem parse_eq_ok_iff : parse s = .ok x ↔ parse? s = some x := by
  unfold parse
  cases parse? s <;> simp

/-- The only violation that parsing reports is that the text is no reference. -/
theorem parse_eq_error_iff {v : Violation} :
    parse s = .error v ↔ parse? s = none ∧ v = .notAReference s := by
  unfold parse
  cases parse? s <;> simp [eq_comm]

/-- A text is the text form of the execution that it names. -/
theorem text_of_parse (h : parse s = .ok x) : x.text = s :=
  (parse?_eq_some_iff.1 (parse_eq_ok_iff.1 h)).1.symm

/-- An execution is read back if its parts are there and the run holds no slash. -/
theorem parse_text_eq_ok_iff :
    parse x.text = .ok x ↔ x.id ≠ "" ∧ x.run ≠ "" ∧ '/' ∉ x.run.toList := by
  rw [parse_eq_ok_iff, parse?_eq_some_iff]
  simp

/-- A text is a reference if something stands on both sides of its last slash. -/
theorem exists_parse_eq_ok_iff :
    (∃ x, parse s = .ok x) ↔
      ∃ before after, s.toList = before ++ '/' :: after ∧ '/' ∉ after ∧
        before ≠ [] ∧ after ≠ [] := by
  constructor
  · rintro ⟨x, h⟩
    obtain ⟨rfl, hid, hrun, hslash⟩ := parse?_eq_some_iff.1 (parse_eq_ok_iff.1 h)
    refine ⟨x.id.toList, x.run.toList, toList_text x, hslash, ?_, ?_⟩
    · simpa using hid
    · simpa using hrun
  · rintro ⟨before, after, hs, hslash, hbefore, hafter⟩
    refine ⟨⟨String.ofList before, String.ofList after⟩, ?_⟩
    rw [parse_eq_ok_iff, parse?_eq_some_iff]
    refine ⟨?_, ?_, ?_, ?_⟩
    · rw [← String.toList_inj, toList_text, hs]
      simp
    · simpa [← String.toList_inj] using hbefore
    · simpa [← String.toList_inj] using hafter
    · simpa using hslash

/-- What stands behind a slash in the run is taken for the run. -/
theorem ne_of_slash (hx : '/' ∈ x.run.toList) (h : parse x.text = .ok y) : y ≠ x := by
  rintro rfl
  exact (parse_text_eq_ok_iff.1 h).2.2 hx

/-- The texts that are references, and the executions that are read back from their text forms. -/
theorem references_read_back :
    (∀ s, (∃ x, parse s = .ok x) ↔
      ∃ before after, s.toList = before ++ '/' :: after ∧ '/' ∉ after ∧
        before ≠ [] ∧ after ≠ []) ∧
    (∀ s x, parse s = .ok x → x.text = s) ∧
    (∀ x, parse x.text = .ok x ↔ x.id ≠ "" ∧ x.run ≠ "" ∧ '/' ∉ x.run.toList) ∧
    ∀ x : Execution, '/' ∈ x.run.toList →
      parse x.text = .error (.notAReference x.text) ∨
        ∃ y, parse x.text = .ok y ∧ y ≠ x ∧ y.text = x.text := by
  refine ⟨fun s => exists_parse_eq_ok_iff, fun s x => text_of_parse,
    fun x => parse_text_eq_ok_iff, ?_⟩
  intro x hx
  cases h : parse x.text with
  | error v =>
    obtain ⟨-, rfl⟩ := parse_eq_error_iff.1 h
    exact .inl rfl
  | ok y => exact .inr ⟨y, rfl, ne_of_slash hx h, text_of_parse h⟩

example : parse "a/b/c" = .ok ⟨"a/b", "c"⟩ ∧ text ⟨"a", "b/c"⟩ = "a/b/c" := ⟨rfl, rfl⟩

end HistoryTree.Execution
