import HistoryTree.Proofs.Projection.SubTasks

/-!
# Registries without some types

A registry from which types are taken out passes over the events of these types, and does with
all others what it did before (`Registry.dispatch_unregisterAll`).  The standard handlers ask for
a child execution only where a task starts the one that the event names, and where this task can
take its tasks in (`Registry.of_standard_expandChild`); taking types out adds nothing to that.
-/

namespace HistoryTree.Registry

open Projection

/-- The registry that passes over the events of any of the types. -/
def unregisterAll (r : Registry) (types : List EventType) : Registry := types.foldl unregister r

variable {r : Registry} {types : List EventType} {e : HistoryEvent} {p q : Projection}
  {task : EventId} {child : Execution}

theorem handler?_unregisterAll (r : Registry) (types : List EventType) (t : EventType) :
    (r.unregisterAll types).handler? t = if t ∈ types then none else r.handler? t := by
  induction types generalizing r with
  | nil => rfl
  | cons u types ih =>
    have hrest : (r.unregisterAll (u :: types)).handler? t
        = ((r.unregister u).unregisterAll types).handler? t := rfl
    rw [hrest, ih, handler?_unregister]
    by_cases htypes : t ∈ types
    · simp [htypes]
    · simp [htypes]

/-- Types that have no handler can be taken out of a registry without a change. -/
theorem unregisterAll_eq_self (h : ∀ t ∈ types, r.isRegistered t = false) :
    r.unregisterAll types = r := by
  have hhandler : (r.unregisterAll types).handler? = r.handler? := by
    funext t
    rw [handler?_unregisterAll]
    split
    · rename_i htype
      exact (Option.isNone_iff_eq_none.1 (Option.isSome_eq_false_iff.1 (h t htype))).symm
    · rfl
  cases r
  exact congrArg Registry.mk hhandler

/-- Events of the types are passed over, and all others are handled as before. -/
theorem dispatch_unregisterAll (r : Registry) (types : List EventType) (e : HistoryEvent) :
    (r.unregisterAll types).dispatch e
      = if e.type ∈ types then pure .applied else r.dispatch e := by
  rw [dispatch, handler?_unregisterAll]
  split
  · rename_i h
    split at h
    · cases h
    · rename_i htype
      rw [if_neg htype, dispatch, h]
  · rename_i h
    split at h
    · rename_i htype
      rw [if_pos htype]
    · rename_i htype
      rw [if_neg htype, dispatch, h]

/-- A handler that asks for a child execution is one that was there before. -/
theorem dispatch_of_unregisterAll_expandChild
    (h : (r.unregisterAll types).dispatch e p = .ok (.expandChild task child) q) :
    r.dispatch e p = .ok (.expandChild task child) q := by
  rw [dispatch_unregisterAll] at h
  split at h
  · cases h
  · exact h

/-- The standard handlers ask for a child execution only at an event that starts it, for a task
that is there and may start one; they do not change anything then. -/
theorem of_standard_expandChild
    (h : standard.dispatch e p = .ok (.expandChild task child) q) :
    e.meaning = .starts task child ∧ q = p ∧
      ∃ slot t, p.resolve? task = some (slot, t) ∧ Rule.checkChildStart t = .ok () := by
  cases hm : e.meaning with
  | creates t =>
    rcases dispatch_creates_eq hm with heq | ⟨-, heq⟩
    · rw [heq, bind_eq_ok_iff] at h
      obtain ⟨_, p', -, h⟩ := h
      cases h
    · rw [heq, bind_eq_ok_iff] at h
      obtain ⟨_, p', -, h⟩ := h
      rw [bind_eq_ok_iff] at h
      obtain ⟨_, p'', -, h⟩ := h
      cases h
  | moves reference next =>
    rw [dispatch_moves_eq hm, bind_eq_ok_iff] at h
    obtain ⟨_, p', -, h⟩ := h
    cases h
  | starts reference execution =>
    rw [dispatch_starts_eq hm, bind_eq_ok_iff] at h
    obtain ⟨⟨slot, t⟩, p', hfind, h⟩ := h
    rw [find] at hfind
    split at hfind
    · rename_i found hresolve
      cases hfind
      cases hcheck : Rule.checkChildStart t with
      | error v =>
        simp only [hcheck] at h
        cases h
      | ok _ =>
        simp only [hcheck] at h
        cases h
        exact ⟨rfl, rfl, slot, t, hresolve, hcheck⟩
    · cases hfind
  | movesGroup s =>
    rw [dispatch_movesGroup hm] at h
    split at h
    · cases h
    · cases h
  | nothing =>
    rw [dispatch_nothing hm] at h
    cases h

end HistoryTree.Registry
