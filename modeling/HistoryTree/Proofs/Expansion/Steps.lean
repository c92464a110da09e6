import HistoryTree.Proofs.Expansion.Trace

/-!
# The steps of an expansion

What an expansion does, one guard and one event at a time.  `Limits.Permits` says that both
guards in front of an expansion are passed.  Applying a history is applying its events one
after the other (`applyAll_append`), so a failure belongs to one event, before which all
events were applied (`applyAll_eq_error_iff`).

`Trace.AgreesUnless` compares two computations of which the first may fail in a given way, and
`expand_agreesUnless` two expansions of which the second has `Looser` guards.
-/

namespace HistoryTree

/-- Whether an execution may be entered below a chain: it is not nested too deep, and not
below itself where that is refused. -/
def Limits.Permits (limits : Limits) (chain : List Execution) (x : Execution) : Prop :=
  chain.length ≤ limits.maxDepth ∧ (limits.detectCycles = true → x ∉ chain)

namespace Trace

open Expansion (applyAll expand below)

variable {α β : Type} {registry : Registry} {limits : Limits} {fetch : Execution → Trace History}
  {project : Execution → Trace TaskGroup} {chain : List Execution} {x : Execution} {levels : Nat}
  {p q : Projection} {halt : Halt}

/-! ## The guards -/

theorem expand_zero :
    expand registry limits fetch 0 chain x = throw (.failed (.tooDeep x limits.maxDepth)) :=
  rfl

theorem expand_succ_of_cycle (hd : limits.detectCycles = true) (hx : x ∈ chain) :
    expand registry limits fetch (levels + 1) chain x = throw (.failed (.cycle x)) := by
  have hguard : (limits.detectCycles && chain.contains x) = true := by simp [hd, hx]
  rw [expand, hguard]
  rfl

/-- Behind the guards, an execution is projected from its history, with a level less for its
children. -/
theorem expand_succ (hx : limits.detectCycles = true → x ∉ chain) :
    expand registry limits fetch (levels + 1) chain x = do
      let h ← fetch x
      let p ← applyAll registry (expand registry limits fetch levels (x :: chain)) h (.start x)
      return p.group := by
  have hguard : (limits.detectCycles && chain.contains x) = false := by
    cases hd : limits.detectCycles with
    | false => rfl
    | true => simpa using hx hd
  rw [expand, hguard]
  rfl

/-- The guard for depth comes first. -/
theorem below_of_tooDeep (h : limits.maxDepth < chain.length) :
    below registry limits fetch chain x = throw (.failed (.tooDeep x limits.maxDepth)) := by
  rw [below, show limits.maxDepth + 1 - chain.length = 0 by omega, expand_zero]

/-- An execution below itself is refused where cycles are looked for. -/
theorem below_of_cycle (h : chain.length ≤ limits.maxDepth) (hd : limits.detectCycles = true)
    (hx : x ∈ chain) : below registry limits fetch chain x = throw (.failed (.cycle x)) := by
  rw [below, show limits.maxDepth + 1 - chain.length = limits.maxDepth - chain.length + 1 by omega,
    expand_succ_of_cycle hd hx]

/-- Behind the guards, the children of an execution are projected below a chain with it. -/
theorem below_of_permits (h : limits.Permits chain x) :
    below registry limits fetch chain x = do
      let events ← fetch x
      let p ← applyAll registry (below registry limits fetch (x :: chain)) events (.start x)
      return p.group := by
  obtain ⟨hdepth, hcycle⟩ := h
  have hlevels : limits.maxDepth + 1 - chain.length
      = limits.maxDepth + 1 - (x :: chain).length + 1 := by
    rw [List.length_cons]
    omega
  rw [below, hlevels, expand_succ hcycle]
  rfl

/-- An expansion that leads to anything but the failure of a guard has passed both. -/
theorem permits_or (limits : Limits) (chain : List Execution) (x : Execution) :
    limits.Permits chain x ∨ limits.maxDepth < chain.length ∨
      (chain.length ≤ limits.maxDepth ∧ limits.detectCycles = true ∧ x ∈ chain) := by
  rw [Limits.Permits]
  by_cases hdepth : chain.length ≤ limits.maxDepth
  · by_cases hcycle : limits.detectCycles = true ∧ x ∈ chain
    · exact .inr (.inr ⟨hdepth, hcycle⟩)
    · exact .inl ⟨hdepth, fun hd hx => hcycle ⟨hd, hx⟩⟩
  · exact .inr (.inl (by omega))

/-! ## The events of a history -/

variable {e : HistoryEvent} {cause : ProjectionError} {task : EventId} {child : Execution}

theorem step_of_error (h : registry.dispatch e p = .error cause q) :
    applyAll registry project [e] p = throw (.failed cause) := by
  rw [applyAll, h]

theorem step_of_applied (h : registry.dispatch e p = .ok .applied q) :
    applyAll registry project [e] p = pure q := by
  rw [applyAll, h]
  rfl

theorem step_of_expandChild (h : registry.dispatch e p = .ok (.expandChild task child) q) :
    applyAll registry project [e] p = do
      let g ← project child
      match Projection.attachChild e.id task g q with
      | .error cause _ => throw (.failed cause)
      | .ok () q' => return q' := by
  rw [applyAll, h]
  rfl

theorem applyAll_nil : applyAll registry project [] p = pure p := rfl

theorem applyAll_cons (e : HistoryEvent) (rest : History) :
    applyAll registry project (e :: rest) p
      = applyAll registry project [e] p >>= applyAll registry project rest := by
  rw [applyAll, applyAll]
  cases registry.dispatch e p with
  | error cause p' => rfl
  | ok outcome p' =>
    cases outcome with
    | applied => rfl
    | expandChild task child =>
      simp only [bind_assoc]
      congr 1
      funext g
      cases Projection.attachChild e.id task g p' <;> rfl

/-- To apply a history is to apply its parts one after the other. -/
theorem applyAll_append (h₁ h₂ : History) :
    applyAll registry project (h₁ ++ h₂) p
      = applyAll registry project h₁ p >>= applyAll registry project h₂ := by
  induction h₁ generalizing p with
  | nil => rfl
  | cons e rest ih =>
    rw [List.cons_append, applyAll_cons, applyAll_cons e rest, bind_assoc]
    congr 1
    funext q
    exact ih

/-- Applying a history fails exactly where all events before one event are applied and
applying that one fails. -/
theorem applyAll_eq_error_iff {h : History} :
    (applyAll registry project h p).result = .error halt ↔
      ∃ before e after q, h = before ++ e :: after ∧
        (applyAll registry project before p).result = .ok q ∧
        (applyAll registry project [e] q).result = .error halt := by
  constructor
  · intro hfail
    induction h generalizing p with
    | nil => cases hfail
    | cons e rest ih =>
      rw [applyAll_cons, result_bind_eq_error_iff] at hfail
      rcases hfail with hfail | ⟨q, hq, hfail⟩
      · exact ⟨[], e, rest, p, rfl, rfl, hfail⟩
      · obtain ⟨before, e', after, q', rfl, hq', hfail⟩ := ih hfail
        refine ⟨e :: before, e', after, q', rfl, ?_, hfail⟩
        rw [applyAll_cons, result_bind_of_ok hq, hq']
  · rintro ⟨before, e, after, q, rfl, hq, hfail⟩
    rw [applyAll_append, result_bind_of_ok hq, applyAll_cons, result_bind_of_error hfail]

/-! ## Agreement -/

/-- Two computations agree, unless the first fails in a given way. -/
def AgreesUnless (bad : Halt → Prop) (α : Type) (t u : Trace α) : Prop :=
  (∃ halt, t.result = .error halt ∧ bad halt) ∨ u = t

/-- Computations agree unless a part of the first fails in the given way. -/
theorem agreesUnless_congruence (bad : Halt → Prop) :
    Expansion.Congruence (AgreesUnless bad) where
  pure _ := .inr rfl
  throw _ := .inr rfl
  bind := by
    intro α β t u f g htu hfg
    rcases htu with ⟨halt, ht, hbad⟩ | rfl
    · exact .inl ⟨halt, result_bind_of_error ht, hbad⟩
    · cases hu : u.result with
      | error halt => exact .inr (by rw [bind_of_error hu, bind_of_error hu])
      | ok a =>
        rcases hfg a with ⟨halt, hf, hbad⟩ | hg
        · exact .inl ⟨halt, by rw [result_bind_of_ok hu, hf], hbad⟩
        · exact .inr (by rw [bind_of_ok hu, bind_of_ok hu, hg])

/-- The guards in front of one expansion let through all that those of another let through,
and whatever they let through besides fails in a given way at the other. -/
structure Looser (bad : Halt → Prop) (limits limits' : Limits) (levels levels' : Nat)
    (chain chain' : List Execution) : Prop where
  levels_le : levels ≤ levels'
  bad_tooDeep : (levels' = levels ∧ limits'.maxDepth = limits.maxDepth) ∨
    ∀ y, bad (.failed (.tooDeep y limits.maxDepth))
  detect : limits'.detectCycles = true → limits.detectCycles = true ∧ chain' ⊆ chain
  bad_cycle : limits.detectCycles = true →
    (limits'.detectCycles = true ∧ chain' = chain) ∨ ∀ y, bad (.failed (.cycle y))

variable {bad : Halt → Prop} {limits' : Limits} {levels' : Nat} {chain' : List Execution}

/-- Guards that are looser stay so one level below. -/
theorem Looser.below (h : Looser bad limits limits' (levels + 1) (levels' + 1) chain chain')
    (x : Execution) : Looser bad limits limits' levels levels' (x :: chain) (x :: chain') where
  levels_le := Nat.le_of_succ_le_succ h.levels_le
  bad_tooDeep := h.bad_tooDeep.imp (fun hsame => ⟨Nat.succ.inj hsame.1, hsame.2⟩) id
  detect hd := ⟨(h.detect hd).1, List.cons_subset_cons x (h.detect hd).2⟩
  bad_cycle hd := (h.bad_cycle hd).imp (fun hsame => ⟨hsame.1, by rw [hsame.2]⟩) id

/-- Looser guards lead to the same, unless an expansion fails for what was loosened. -/
theorem expand_agreesUnless (h : Looser bad limits limits' levels levels' chain chain')
    (x : Execution) :
    AgreesUnless bad _ (expand registry limits fetch levels chain x)
      (expand registry limits' fetch levels' chain' x) := by
  induction levels generalizing levels' chain chain' x with
  | zero =>
    rcases h.bad_tooDeep with ⟨rfl, hsame⟩ | hbad
    · exact .inr (by rw [expand_zero, expand_zero, hsame])
    · exact .inl ⟨_, rfl, hbad x⟩
  | succ levels ih =>
    obtain ⟨levels', rfl⟩ : ∃ n, levels' = n + 1 :=
      Nat.exists_eq_add_of_le' (Nat.le_trans (Nat.le_add_left 1 levels) h.levels_le)
    by_cases hx : limits.detectCycles = true → x ∉ chain
    · have hx' : limits'.detectCycles = true → x ∉ chain' := fun hd hmem =>
        hx (h.detect hd).1 ((h.detect hd).2 hmem)
      rw [expand_succ hx, expand_succ hx']
      have hR := agreesUnless_congruence bad
      refine hR.bind (.inr rfl) fun events => hR.bind ?_ fun p => .inr rfl
      exact hR.applyAll (fun c => ih (h.below x) c) events _
    · obtain ⟨hd, hnot⟩ := Classical.not_imp.1 hx
      have hmem : x ∈ chain := Decidable.not_not.1 hnot
      rw [expand_succ_of_cycle hd hmem]
      rcases h.bad_cycle hd with ⟨hd', rfl⟩ | hbad
      · exact .inr (expand_succ_of_cycle hd' hmem)
      · exact .inl ⟨_, rfl, hbad x⟩

end Trace

end HistoryTree
