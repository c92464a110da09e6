import HistoryTree.Proofs.Expansion.Bounds

/-!
# How far the trees of an expansion nest

Whatever is asked for histories, and in whatever kind of computation, the tree of an expansion has
at most as many levels of tasks as were left to it (`Expansion.ensures_expand`).  `Ensures` says of
a computation what its results are like; of a run within a session, that is a statement about all
states that it can start from (`Ensures.of_eq_ok`).
-/

namespace HistoryTree

/-! ## What computations ensure -/

section ensures

variable {m : Type → Type} {α β : Type} {P : α → Prop} {Q : β → Prop}

/-- All results of a computation have a property: it could as well return a proof with each. -/
def Ensures [Functor m] (P : α → Prop) (c : m α) : Prop :=
  ∃ c' : m {a // P a}, Subtype.val <$> c' = c

theorem ensures_pure [Applicative m] [LawfulApplicative m] {a : α} (ha : P a) :
    Ensures P (pure a : m α) :=
  ⟨pure ⟨a, ha⟩, map_pure _ _⟩

/-- Every computation ensures what always holds. -/
theorem ensures_true [Functor m] [LawfulFunctor m] (c : m α) : Ensures (fun _ => True) c := by
  refine ⟨(fun a => ⟨a, trivial⟩) <$> c, ?_⟩
  rw [Functor.map_map]
  exact id_map c

/-- What the results of a computation have in common can be used by what follows it. -/
theorem ensures_bind [Monad m] [LawfulMonad m] {c : m α} {f : α → m β} (hc : Ensures P c)
    (hf : ∀ a, P a → Ensures Q (f a)) : Ensures Q (c >>= f) := by
  obtain ⟨c', rfl⟩ := hc
  choose g hg using fun a : {a // P a} => hf a.1 a.2
  refine ⟨c' >>= g, ?_⟩
  rw [map_bind, bind_map_left]
  simp only [hg]

/-- What all results have, the result of every run has. -/
theorem Ensures.of_eq_ok {ε σ : Type} {c : EStateM ε σ α} (h : Ensures P c) {s s' : σ} {a : α}
    (heq : c s = .ok a s') : P a := by
  obtain ⟨c', rfl⟩ := h
  change EStateM.map Subtype.val c' s = _ at heq
  rw [EStateM.map] at heq
  cases hc : c' s with
  | ok b s'' =>
    rw [hc] at heq
    cases heq
    exact b.2
  | error e s'' =>
    rw [hc] at heq
    cases heq

/-- What all results of a computation have, they have whatever state it starts from. -/
theorem Ensures.of_state {σ : Type} {c : StateM σ α} (h : Ensures P c) (s : σ) : P (c s).1 := by
  obtain ⟨c', rfl⟩ := h
  exact (c' s).1.2

theorem Ensures.imp [Functor m] [LawfulFunctor m] {P' : α → Prop} {c : m α} (h : Ensures P c)
    (hP : ∀ a, P a → P' a) : Ensures P' c := by
  obtain ⟨c', rfl⟩ := h
  exact ⟨(fun a => ⟨a.1, hP a.1 a.2⟩) <$> c', Functor.map_map ..⟩

/-- A failure is no result, so nothing is ensured of it. -/
theorem Ensures.run [Monad m] [LawfulMonad m] {ε : Type} {c : ExceptT ε m α} (h : Ensures P c) :
    Ensures (fun r => ∀ a, r = .ok a → P a) c.run := by
  obtain ⟨c', rfl⟩ := h
  refine ⟨(fun r => ⟨r.map Subtype.val, ?_⟩) <$> c'.run, ?_⟩
  · rintro a ha
    cases r with
    | error e => cases ha
    | ok b =>
      cases ha
      exact b.2
  · rw [Functor.map_map, ExceptT.run_map]

/-- A kind of computation in which a failure has no result. -/
def FailsWithoutResult (m : Type → Type) [Functor m] [MonadExceptOf Halt m] : Prop :=
  ∀ (α : Type) (P : α → Prop) (halt : Halt), Ensures P (throw halt : m α)

theorem failsWithoutResult_run {σ : Type} : FailsWithoutResult (EStateM Halt σ) :=
  fun _ _ halt => ⟨throw halt, rfl⟩

theorem failsWithoutResult_exceptT [Monad m] [LawfulMonad m] :
    FailsWithoutResult (ExceptT Halt m) :=
  fun _ _ halt => ⟨throw halt, ExceptT.map_throw ..⟩

end ensures

/-! ## Expansions -/

namespace Expansion

variable {m : Type → Type} [Monad m] [LawfulMonad m] [MonadExceptOf Halt m] {registry : Registry}
  {limits : Limits}

/-- If the tasks of children nest at most so many times, those of the parent nest at most once
more. -/
theorem ensures_applyAll (hm : FailsWithoutResult m) (hr : registry.LeavesChildren)
    {levels : Nat} {expand : Execution → m TaskGroup}
    (hexpand : ∀ c, Ensures (fun g => Task.Nests levels g.tasks) (expand c)) (h : History)
    (p : Projection) (hp : Task.Nests (levels + 1) p.group.tasks) :
    Ensures (fun q => Task.Nests (levels + 1) q.group.tasks) (applyAll registry expand h p) := by
  induction h generalizing p with
  | nil => exact ensures_pure hp
  | cons e rest ih =>
    rw [applyAll]
    cases hdispatch : registry.dispatch e p with
    | error cause q => exact hm _ _ _
    | ok outcome q =>
      have hq := (hr e p outcome q hdispatch).subTasksFrom.nests hp
      cases outcome with
      | applied => exact ih q hq
      | expandChild task child =>
        refine ensures_bind (hexpand child) fun g hg => ?_
        cases hattach : Projection.attachChild e.id task g q with
        | error cause q' => exact hm _ _ _
        | ok u q' => exact ih q' (Projection.nests_of_attachChild hattach hq hg)

/-- The tasks of a tree nest at most as often as levels are left. -/
theorem ensures_expand (hm : FailsWithoutResult m) (hr : registry.LeavesChildren)
    (fetch : Execution → m History) (levels : Nat) (chain : List Execution) (x : Execution) :
    Ensures (fun g => Task.Nests levels g.tasks) (expand registry limits fetch levels chain x) := by
  induction levels generalizing chain x with
  | zero => exact hm _ _ _
  | succ levels ih =>
    have hempty : Task.Nests (levels + 1) (Projection.start x).group.tasks := by
      intro t ht
      cases ht
    have hrest : Ensures (fun g => Task.Nests (levels + 1) g.tasks)
        (do
          let events ← fetch x
          let p ← applyAll registry (expand registry limits fetch levels (x :: chain)) events
            (.start x)
          return p.group) := by
      refine ensures_bind (ensures_true _) fun events _ => ?_
      have happlied := ensures_applyAll hm hr (ih (x :: chain)) events (.start x) hempty
      exact ensures_bind happlied fun p hp => ensures_pure hp
    rw [expand]
    split
    · exact ensures_bind (hm _ (fun _ => True) _) fun _ _ => hrest
    · exact hrest

end Expansion

namespace Session

variable {σ : Type} {source : Source σ} {registry : Registry} {limits : Limits} {x : Execution}

/-- The tree that a session projects has one level of tasks more than executions may be nested. -/
theorem ensures_project (hr : registry.LeavesChildren) :
    Ensures (fun g => Task.Nests (limits.maxDepth + 1) g.tasks)
      (project source registry limits x) :=
  Expansion.ensures_expand failsWithoutResult_run hr _ _ _ _

theorem ensures_projectUnlessCancelled (hr : registry.LeavesChildren) :
    Ensures (fun g => Task.Nests (limits.maxDepth + 1) g.tasks)
      (projectUnlessCancelled source registry limits x) := by
  have hexpanded : Ensures (fun g => Task.Nests (limits.maxDepth + 1) g.tasks)
      (Expansion.project registry limits (fetch source limits true) x) :=
    Expansion.ensures_expand failsWithoutResult_run hr _ _ _ _
  rw [projectUnlessCancelled]
  refine ensures_bind (ensures_true _) fun s _ => ?_
  split
  · exact ensures_bind (failsWithoutResult_run _ (fun _ => True) _) fun _ _ => hexpanded
  · exact hexpanded

end Session

end HistoryTree
