import HistoryTree.Event.Codec
import HistoryTree.Proofs.Json.Records

/-!
# What an event is read from

The id and the time stamp of an event are taken from the members of these names.  All other
members are kept as values until the type is found among them, wherever it stands, and the fields
of the type are taken from those that are left then (`HistoryEvent.reader_eq_ok_iff`).
-/

namespace HistoryTree

open Json

namespace EventKind

variable {t : EventType} {k : EventKind} {ms : List (String × Value)}

/-- The kind that a row of a type stands for has this type. -/
theorem type_ofRow (t : EventType) (row : Row t.columns) : (ofRow t row).type = t := by
  cases t <;> rfl

/-- A kind is read exactly from members that fill a row of its type. -/
theorem ofFields_eq_ok_iff :
    ofFields t ms = .ok k ↔ ∃ row, Row.Reads t.columns ms row ∧ ofRow t row = k := by
  rw [ofFields]
  constructor
  · intro h
    cases hrow : Row.ofValues t.columns ms with
    | error e =>
      rw [hrow] at h
      cases h
    | ok p =>
      obtain ⟨row, rest⟩ := p
      rw [hrow] at h
      exact ⟨row, (Row.ofValues_eq_ok_iff.1 hrow).1, Except.ok.inj h⟩
  · rintro ⟨row, hrow, rfl⟩
    rw [Row.ofValues_eq_ok_iff.2 ⟨hrow, rfl⟩]
    rfl

/-- A kind is what members read as: its type is named by one of them, and the others give the
fields of the type. -/
def IsReadFrom (k : EventKind) (ms : List (String × Value)) : Prop :=
  ∃ row, Row.Reads [typeColumn] ms (k.type, ()) ∧
    Row.Reads k.type.columns (Row.remaining [typeColumn] ms) row ∧ ofRow k.type row = k

/-- Members are read as a kind exactly if they are a type and what fills a row of it. -/
theorem ofMembers_eq_ok_iff : ofMembers ms = .ok k ↔ k.IsReadFrom ms := by
  rw [ofMembers]
  constructor
  · intro h
    cases htype : Row.ofValues [typeColumn] ms with
    | error e =>
      simp only [htype] at h
      cases h
    | ok p =>
      obtain ⟨⟨t, ⟨⟩⟩, rest⟩ := p
      change EventType at t
      obtain ⟨hreads, rfl⟩ := Row.ofValues_eq_ok_iff.1 htype
      simp only [htype] at h
      obtain ⟨row, hrow, rfl⟩ := ofFields_eq_ok_iff.1 h
      rw [IsReadFrom, type_ofRow]
      exact ⟨row, hreads, hrow, rfl⟩
  · rintro ⟨row, hreads, hrow, hk⟩
    rw [Row.ofValues_eq_ok_iff.2 ⟨hreads, rfl⟩]
    exact ofFields_eq_ok_iff.2 ⟨row, hrow, hk⟩

end EventKind

namespace HistoryEvent

variable {levels : Nat} {e : HistoryEvent} {ms : List (String × Tree)}

/-- An event is what the members of an object read as: its id and its time stamp are among them,
and the values of the others give its kind. -/
theorem reader_eq_ok_iff :
    reader (levels + 1) (.object (Row.intact ms) .closed) = .ok e ↔
      Row.Reads (columns levels) ms (e.id, e.timestamp, ()) ∧
      ∃ rest, Row.Others (Reader.any levels) (Row.remaining (columns levels) ms) rest ∧
        e.kind.IsReadFrom rest := by
  rw [reader]
  constructor
  · intro h
    cases hrow : Row.ofMembers (columns levels) (Reader.any levels) .closed (Row.intact ms) with
    | error f =>
      simp only [hrow] at h
      cases h
    | ok p =>
      obtain ⟨⟨id, timestamp, ⟨⟩⟩, rest⟩ := p
      obtain ⟨hreads, hrest⟩ := Row.ofMembers_eq_ok_iff.1 hrow
      simp only [hrow] at h
      cases hkind : EventKind.ofMembers rest with
      | error f =>
        rw [hkind] at h
        cases h
      | ok k =>
        rw [hkind] at h
        cases h
        exact ⟨hreads, rest, hrest, EventKind.ofMembers_eq_ok_iff.1 hkind⟩
  · rintro ⟨hreads, rest, hrest, hkind⟩
    rw [Row.ofMembers_eq_ok_iff.2 ⟨hreads, hrest⟩]
    simp only
    rw [EventKind.ofMembers_eq_ok_iff.2 hkind]
    rfl

end HistoryEvent

end HistoryTree
