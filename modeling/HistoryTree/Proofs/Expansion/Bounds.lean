import HistoryTree.Proofs.Expansion.Cycles
import HistoryTree.Proofs.Expansion.Guards
import HistoryTree.Proofs.Projection.SubTasks
import HistoryTree.Proofs.Task.Walk
import Mathlib.Algebra.Order.Ring.GeomSum
import Mathlib.Data.ENat.Basic

/-!
# How far an expansion can grow

Histories may refer to each other and to themselves in any way; what bounds an expansion is the
limit of nesting alone.  If every history comes to its end, and the handlers leave child executions
to the expansion, then (`Session.expansion_bounded`)

* every run returns, and it is the guards that end it: with more levels to go down, `Walk.visit`
  does the same (`Walk.alike_visit`);
* the tree of a run has no task deeper than the limit, and none there with sub-tasks;
* a run makes at most `1 + k + k² + … ` requests, one power for each level, if no history starts
  more than `k` child executions.

`Walk.Spends` carries the last two through a run, as a triple with a budget of requests: a history
costs as many times the budget of one level less as it starts children (`Walk.spends_applyAll`).
The budget is an extended number, so that nothing needs to be known of the histories where only the
tree is asked about.
-/

namespace HistoryTree

/-- The states to which requests and handlers can lead a source. -/
inductive Source.LeadsTo {σ : Type} (source : Source σ) (dispatch : Dispatch σ) (s : σ) : σ → Prop
  | start : LeadsTo source dispatch s s
  | request {s' : σ} (x : Execution) : LeadsTo source dispatch s s' →
      LeadsTo source dispatch s (source x s').2
  | handle {s' : σ} (e : HistoryEvent) (p : Projection) : LeadsTo source dispatch s s' →
      LeadsTo source dispatch s (dispatch e p s').2

/-- The handlers leave child executions to the expansion. -/
def Dispatch.LeavesChildren {σ : Type} (dispatch : Dispatch σ) : Prop :=
  ∀ e p s outcome q, (dispatch e p s).1 = .ok outcome q → outcome.LeavesChildren e p q

theorem Registry.LeavesChildren.dispatcher {σ : Type} {r : Registry} (hr : r.LeavesChildren) :
    (r.dispatcher : Dispatch σ).LeavesChildren :=
  fun e p _ outcome q => hr e p outcome q

/-- How many events of a history start a child execution. -/
def History.childStarts (h : History) : Nat := h.countP (·.type = .childStarted)

theorem History.childStarts_cons (e : HistoryEvent) (rest : History) :
    childStarts (e :: rest) = childStarts rest + if e.type = .childStarted then 1 else 0 := by
  simp [childStarts, List.countP_cons]

/-- To hang a tree below a task makes a tree that nests at most once more. -/
theorem Projection.nests_of_attachChild {event task : EventId} {g : TaskGroup} {p q : Projection}
    {n : Nat} (h : attachChild event task g p = .ok () q) (hp : Task.Nests (n + 1) p.group.tasks)
    (hg : Task.Nests n g.tasks) : Task.Nests (n + 1) q.group.tasks := by
  rw [attachChild, bind_eq_ok_iff] at h
  obtain ⟨_, p', hattach, hadvance⟩ := h
  obtain ⟨slot, t, t', -, hchange, rfl⟩ := update_eq_ok_iff.1 hattach
  have hsub : t'.subTasks = some g.tasks := by
    rw [Task.attach] at hchange
    split at hchange
    · cases hchange
    · cases hchange
      rfl
  intro u hu us husub
  obtain ⟨v, hv, hvsub⟩ := subTasksFrom_of_advance hadvance u hu us husub
  rcases List.mem_or_eq_of_mem_set hv with hv | rfl
  · exact hp v hv us hvsub
  · obtain rfl : g.tasks = us := Option.some.inj (hsub.symm.trans hvsub)
    exact hg

theorem Projection.SubTasksFrom.nests {p q : Projection} {n : Nat} (h : q.SubTasksFrom p)
    (hp : Task.Nests (n + 1) p.group.tasks) : Task.Nests (n + 1) q.group.tasks := by
  intro t ht ts hsub
  obtain ⟨u, hu, husub⟩ := h t ht ts hsub
  exact hp u hu ts husub

namespace Walk

variable {σ α β : Type} {source : Source σ} {dispatch : Dispatch σ} {limits : Limits}
  {watching : Bool} {x : Execution} {good : σ → Prop}

/-! ## Budgets -/

/-- A part of an expansion returned after at most so many requests, with a good state of the
source and, if it succeeded, a good result. -/
structure Spent (good : σ → Prop) (budget : ℕ∞) (P : α → Prop) (w : Course σ)
    (r : EStateM.Result Halt (Course σ) α) : Prop where
  returned : returns r = true
  source : good (stateAfter r).session.source
  fetched : ∃ asked, (stateAfter r).session.fetched = w.session.fetched ++ asked ∧
    (asked.length : ℕ∞) ≤ budget
  result : ∀ a w', r = .ok a w' → P a

/-- From every good state of the source on, a part of an expansion returns after at most so many
requests. -/
def Spends (good : σ → Prop) (budget : ℕ∞) (P : α → Prop) (walk : Walk σ α) : Prop :=
  ∀ w, good w.session.source → Spent good budget P w (walk w)

variable {walk : Walk σ α} {P : α → Prop} {Q : β → Prop} {m n : ℕ∞}

/-- What is spent within a budget is spent within a larger one. -/
theorem Spends.mono (h : Spends good m P walk) (hle : m ≤ n) : Spends good n P walk := by
  intro w hw
  obtain ⟨hreturned, hgood, ⟨asked, hfetched, hlength⟩, hresult⟩ := h w hw
  exact ⟨hreturned, hgood, ⟨asked, hfetched, hlength.trans hle⟩, hresult⟩

theorem spends_pure {a : α} (ha : P a) : Spends good 0 P (pure a : Walk σ α) := by
  intro w hw
  refine ⟨rfl, hw, ⟨[], (List.append_nil _).symm, le_refl _⟩, ?_⟩
  rintro _ _ ⟨⟩
  exact ha

/-- A failure spends nothing, so it is within every budget. -/
theorem spends_throw (cause : ProjectionError) (budget : ℕ∞) :
    Spends good budget P (throw (.failed cause) : Walk σ α) := by
  intro w hw
  exact ⟨rfl, hw, ⟨[], (List.append_nil _).symm, zero_le⟩, by rintro _ _ ⟨⟩⟩

/-- Budgets add up in sequence. -/
theorem spends_bind {f : α → Walk σ β} (hwalk : Spends good m P walk)
    (hf : ∀ a, P a → Spends good n Q (f a)) : Spends good (m + n) Q (walk >>= f) := by
  intro w hw
  obtain ⟨hreturned, hgood, ⟨asked, hfetched, hlength⟩, hresult⟩ := hwalk w hw
  show Spent good (m + n) Q w (EStateM.bind walk f w)
  rw [EStateM.bind]
  cases h : walk w with
  | ok a w' =>
    rw [h] at hgood hfetched
    obtain ⟨hreturned', hgood', ⟨asked', hfetched', hlength'⟩, hresult'⟩ :=
      hf a (hresult a w' h) w' hgood
    refine ⟨hreturned', hgood', ⟨asked ++ asked', ?_, ?_⟩, hresult'⟩
    · rw [hfetched', show w'.session.fetched = _ from hfetched, List.append_assoc]
    · rw [List.length_append, Nat.cast_add]
      exact add_le_add hlength hlength'
  | error halt w' =>
    rw [h] at hreturned hgood hfetched
    refine ⟨by cases halt <;> exact hreturned, hgood, ⟨asked, hfetched, ?_⟩, by rintro _ _ ⟨⟩⟩
    exact hlength.trans le_self_add

/-- A guard spends nothing itself. -/
theorem spends_guarded (hwalk : Spends good n P walk) :
    Spends good n P (guarded limits x walk) := by
  intro w hw
  rw [guarded]
  cases limits.refusal? w.ancestors x with
  | none => exact hwalk w hw
  | some cause =>
    exact ⟨rfl, hw, ⟨[], (List.append_nil _).symm, zero_le⟩, by rintro _ _ ⟨⟩⟩

theorem returns_lastly {last : Course σ → Course σ} {r : EStateM.Result Halt (Course σ) α}
    (h : returns r = true) : returns (lastly last r) = true := by
  match r, h with
  | .ok _ _, _ => rfl
  | .error (.failed _) _, _ => rfl

theorem exists_of_lastly_eq_ok {last : Course σ → Course σ}
    {r : EStateM.Result Halt (Course σ) α} {a : α} {w : Course σ} (h : lastly last r = .ok a w) :
    ∃ w', r = .ok a w' ∧ w = last w' := by
  match r, h with
  | .ok _ w', rfl => exact ⟨w', rfl, rfl⟩

/-- Steps around a part of an expansion that leave the session alone cost nothing. -/
theorem spends_lastly {first last : Course σ → Course σ}
    (hfirst : ∀ w, (first w).session = w.session) (hlast : ∀ w, (last w).session = w.session)
    (hwalk : Spends good n P walk) :
    Spends good n P (fun w => lastly last (walk (first w)) : Walk σ α) := by
  intro w hw
  obtain ⟨hreturned, hgood, hfetched, hresult⟩ := hwalk (first w) (by rwa [hfirst])
  have hstate := stateAfter_lastly last hreturned
  rw [hfirst] at hfetched
  refine ⟨returns_lastly hreturned, ?_, ?_, ?_⟩
  · rwa [hstate, hlast]
  · rwa [hstate, hlast]
  · intro a w' h
    obtain ⟨w'', h, -⟩ := exists_of_lastly_eq_ok h
    exact hresult a w'' h

theorem spends_below (hwalk : Spends good n P walk) : Spends good n P (below x walk) :=
  spends_lastly (fun _ => rfl) (fun _ => rfl) hwalk

theorem spends_leaving (hwalk : Spends good n P walk) : Spends good n P (leaving x walk) :=
  spends_lastly (fun _ => rfl) (fun _ => rfl) hwalk

/-- Entering an execution costs one request, whether or not a history is delivered. -/
theorem spends_entering {k : ℕ∞} (hrequest : ∀ x s, good s → good (source x s).2)
    (hends : ∀ x s, good s → ∃ answer, (source x s).1.drain = .ofAnswer answer)
    (hstarts : ∀ x s h, good s → (source x s).1.drain = .history h → (h.childStarts : ℕ∞) ≤ k) :
    Spends good 1 (fun h : History => (h.childStarts : ℕ∞) ≤ k)
      (entering x (Session.fetch source limits watching x)) := by
  intro w hw
  obtain ⟨answer, hanswer⟩ := hends x w.session.source hw
  have hstarts' := hstarts x w.session.source
  have hgood := hrequest x w.session.source hw
  rw [entering, Session.fetch]
  cases hsource : source x w.session.source with
  | mk reading next =>
    rw [hsource] at hanswer hstarts' hgood
    cases answer with
    | ok h =>
      simp only [Drained.ofAnswer] at hanswer
      simp only [hanswer]
      refine ⟨rfl, hgood, ⟨[x], rfl, by simp⟩, ?_⟩
      rintro _ _ ⟨⟩
      exact hstarts' h hw hanswer
    | error e =>
      simp only [Drained.ofAnswer] at hanswer
      simp only [hanswer]
      exact ⟨rfl, hgood, ⟨[x], rfl, by simp⟩, by rintro _ _ ⟨⟩⟩

/-- A handler makes no request. -/
theorem spends_handle (hhandle : ∀ e p s, good s → good (dispatch e p s).2) (e : HistoryEvent)
    (p : Projection) :
    Spends good 0 (fun outcome => ∃ s, (dispatch e p s).1 = outcome) (handle dispatch e p) := by
  intro w hw
  refine ⟨rfl, hhandle e p _ hw, ⟨[], (List.append_nil _).symm, le_refl _⟩, ?_⟩
  rintro _ _ ⟨⟩
  exact ⟨w.session.source, rfl⟩

/-- A history costs what its children cost, each at most the budget of a child. -/
theorem spends_applyAll (hhandle : ∀ e p s, good s → good (dispatch e p s).2)
    (hd : dispatch.LeavesChildren) {visit : Execution → Walk σ TaskGroup} {levels : Nat}
    (hvisit : ∀ c, Spends good n (fun g => Task.Nests levels g.tasks) (visit c)) (h : History)
    (p : Projection) (hp : Task.Nests (levels + 1) p.group.tasks) :
    Spends good (h.childStarts * n) (fun q => Task.Nests (levels + 1) q.group.tasks)
      (applyAll dispatch visit h p) := by
  induction h generalizing p with
  | nil =>
    refine Spends.mono ?_ zero_le
    exact spends_pure hp
  | cons e rest ih =>
    rw [applyAll]
    refine (spends_bind (spends_handle hhandle e p) (n := _) ?_).mono (zero_add _).le
    rintro outcome ⟨s, houtcome⟩
    cases outcome with
    | error cause q => exact spends_throw cause _
    | ok outcome q =>
      have hleaves := hd e p s outcome q houtcome
      have hq := hleaves.subTasksFrom.nests hp
      cases outcome with
      | applied =>
        have hle : (History.childStarts rest : ℕ∞) ≤ History.childStarts (e :: rest) := by
          rw [History.childStarts_cons]
          exact_mod_cast Nat.le_add_right _ _
        exact (ih q hq).mono (mul_le_mul_left hle n)
      | expandChild task child =>
        have htype : e.type = .childStarted := hleaves.type_of_expandChild task child rfl
        have hcost : (History.childStarts (e :: rest) : ℕ∞) * n
            = n + History.childStarts rest * n := by
          rw [History.childStarts_cons, if_pos htype, Nat.cast_add, Nat.cast_one, add_mul,
            one_mul, add_comm]
        rw [hcost]
        refine spends_bind (hvisit child) ?_
        intro g hg
        split
        · exact spends_throw _ _
        · rename_i q' hattach
          exact ih q' (Projection.nests_of_attachChild hattach hq hg)

/-- An expansion costs one request for each execution on each level. -/
theorem spends_visit {k : ℕ∞} (hrequest : ∀ x s, good s → good (source x s).2)
    (hhandle : ∀ e p s, good s → good (dispatch e p s).2)
    (hends : ∀ x s, good s → ∃ answer, (source x s).1.drain = .ofAnswer answer)
    (hstarts : ∀ x s h, good s → (source x s).1.drain = .history h → (h.childStarts : ℕ∞) ≤ k)
    (hd : dispatch.LeavesChildren) (levels : Nat) (x : Execution) :
    Spends good (∑ i ∈ Finset.range levels, k ^ i) (fun g => Task.Nests levels g.tasks)
      (visit dispatch limits (Session.fetch source limits watching) levels x) := by
  induction levels generalizing x with
  | zero => exact spends_guarded (spends_throw _ _)
  | succ levels ih =>
    rw [visit, geom_sum_succ, add_comm]
    refine spends_guarded (spends_leaving ?_)
    refine spends_bind (spends_entering hrequest hends hstarts) fun h hk => ?_
    have hempty : Task.Nests (levels + 1) (Projection.start x).group.tasks := by
      intro t ht
      cases ht
    have happlied := spends_applyAll hhandle hd ih h (.start x) hempty
    have hcost : (h.childStarts : ℕ∞) * ∑ i ∈ Finset.range levels, k ^ i + 0
        ≤ k * ∑ i ∈ Finset.range levels, k ^ i := by
      rw [add_zero]
      exact mul_le_mul_left hk _
    refine Spends.mono ?_ hcost
    exact spends_bind (spends_below happlied) fun p hp => spends_pure hp

/-! ## Levels -/

/-- Below a chain of ancestors, two computations along a course do the same, and where they
succeed they give the list back as it was. -/
def Alike (chain : List Execution) (walk walk' : Walk σ α) : Prop :=
  ∀ w, w.ancestors = chain → walk' w = walk w ∧ ∀ a w', walk w = .ok a w' → w'.ancestors = chain

variable {chain : List Execution} {walk' : Walk σ α}

theorem alike_pure (a : α) : Alike chain (pure a : Walk σ α) (pure a) := by
  intro w hw
  refine ⟨rfl, ?_⟩
  rintro _ _ ⟨⟩
  exact hw

theorem alike_throw (halt : Halt) : Alike chain (throw halt : Walk σ α) (throw halt) :=
  fun _ _ => ⟨rfl, by rintro _ _ ⟨⟩⟩

/-- Computations that are alike, one behind the other, are alike. -/
theorem alike_bind {f f' : α → Walk σ β} (hwalk : Alike chain walk walk')
    (hf : ∀ a, Alike chain (f a) (f' a)) : Alike chain (walk >>= f) (walk' >>= f') := by
  intro w hw
  obtain ⟨hsame, hchain⟩ := hwalk w hw
  show EStateM.bind walk' f' w = EStateM.bind walk f w ∧
    ∀ b w', EStateM.bind walk f w = .ok b w' → w'.ancestors = chain
  rw [EStateM.bind, EStateM.bind, hsame]
  cases h : walk w with
  | ok a w' => exact hf a w' (hchain a w' h)
  | error halt w' => exact ⟨rfl, by rintro _ _ ⟨⟩⟩

/-- What a guard refuses does not matter. -/
theorem alike_guarded_of_refusal {cause : ProjectionError}
    (h : limits.refusal? chain x = some cause) :
    Alike chain (guarded limits x walk) (guarded limits x walk') := by
  rintro w rfl
  rw [guarded, guarded, h]
  exact ⟨rfl, by rintro _ _ ⟨⟩⟩

theorem alike_guarded (hwalk : Alike chain walk walk') :
    Alike chain (guarded limits x walk) (guarded limits x walk') := by
  cases h : limits.refusal? chain x with
  | some cause => exact alike_guarded_of_refusal h
  | none =>
    rintro w rfl
    rw [guarded, guarded, h]
    exact hwalk w rfl

theorem alike_below (hwalk : Alike (x :: chain) walk walk') :
    Alike chain (below x walk) (below x walk') := by
  rintro w rfl
  obtain ⟨hsame, hchain⟩ := hwalk (w.push x) rfl
  rw [below, below, hsame]
  refine ⟨rfl, ?_⟩
  intro a w' hok
  obtain ⟨w'', hok', rfl⟩ := exists_of_lastly_eq_ok hok
  show w''.ancestors.tail = w.ancestors
  rw [hchain a w'' hok', List.tail_cons]

theorem alike_leaving (hwalk : Alike chain walk walk') :
    Alike chain (leaving x walk) (leaving x walk') := by
  intro w hw
  obtain ⟨hsame, hchain⟩ := hwalk w hw
  rw [leaving, leaving, hsame]
  refine ⟨rfl, ?_⟩
  intro a w' hok
  obtain ⟨w'', hok', rfl⟩ := exists_of_lastly_eq_ok hok
  exact hchain a w'' hok'

theorem alike_entering (ask : Run σ History) :
    Alike chain (entering x ask) (entering x ask) := by
  rintro w rfl
  refine ⟨rfl, ?_⟩
  intro h w' hentered
  rw [entering] at hentered
  cases hask : ask w.session with
  | ok h' s =>
    rw [hask] at hentered
    cases hentered
    rfl
  | error halt s =>
    rw [hask] at hentered
    cases hentered

theorem alike_handle (e : HistoryEvent) (p : Projection) :
    Alike chain (handle dispatch e p) (handle dispatch e p) := by
  rintro w rfl
  refine ⟨rfl, ?_⟩
  rintro _ _ ⟨⟩
  rfl

/-- A history is applied alike if its children are visited alike. -/
theorem alike_applyAll {visit visit' : Execution → Walk σ TaskGroup}
    (hvisit : ∀ c, Alike chain (visit c) (visit' c)) (h : History) (p : Projection) :
    Alike chain (applyAll dispatch visit h p) (applyAll dispatch visit' h p) := by
  induction h generalizing p with
  | nil => exact alike_pure p
  | cons e rest ih =>
    rw [applyAll, applyAll]
    refine alike_bind (alike_handle e p) fun outcome => ?_
    split
    · exact alike_throw _
    · exact ih _
    · refine alike_bind (hvisit _) fun g => ?_
      split
      · exact alike_throw _
      · exact ih _

/-- With more levels than the limit leaves below the ancestors, an expansion does the same: the
guards refuse whatever comes after the last level. -/
theorem alike_visit {fetch : Execution → Run σ History} {levels : Nat}
    (hlevels : levels + chain.length = limits.maxDepth + 1) (more : Nat) (x : Execution) :
    Alike chain (visit dispatch limits fetch levels x)
      (visit dispatch limits fetch (levels + more) x) := by
  induction levels generalizing chain x with
  | zero =>
    have hrefusal : limits.refusal? chain x = some (.tooDeep x limits.maxDepth) :=
      Limits.refusal?_of_tooDeep (by omega)
    cases more with
    | zero => exact alike_guarded_of_refusal hrefusal
    | succ more =>
      rw [Nat.zero_add]
      exact alike_guarded_of_refusal hrefusal
  | succ levels ih =>
    rw [Nat.succ_add, visit, visit]
    refine alike_guarded (alike_leaving (alike_bind (alike_entering _) fun events => ?_))
    refine alike_bind (alike_below ?_) fun p => alike_pure _
    refine alike_applyAll (fun c => ih ?_ c) events _
    rw [List.length_cons]
    omega

end Walk

/-! ## Whole runs -/

namespace Session

variable {σ : Type} {dispatch : Dispatch σ}

/-- Where all histories come to their end and the handlers leave child executions to the
expansion, a run returns, ended by the guards, with a tree of at most as many levels as the limit
allows, and after at most as many requests as there can be executions on these levels; with the
handlers of a registry, the run leads to what the expansion leads to. -/
theorem expansion_bounded (source : Source σ) (hd : dispatch.LeavesChildren) (limits : Limits)
    (watching : Bool) (x : Execution) (s : Session σ)
    (hends : ∀ s', source.LeadsTo dispatch s.source s' → ∀ y,
      ∃ answer, (source y s').1.drain = .ofAnswer answer) :
    (∀ registry : Registry, dispatch = registry.dispatcher →
      Walk.forget (Walk.run source dispatch limits watching x s)
        = Expansion.project registry limits (fetch source limits watching) x s) ∧
    returns (Walk.run source dispatch limits watching x s) = true ∧
    (∀ more, Walk.visit dispatch limits (fetch source limits watching)
        (limits.maxDepth + 1 + more) x (.start s)
      = Walk.run source dispatch limits watching x s) ∧
    (∀ g w, Walk.run source dispatch limits watching x s = .ok g w → ∀ d t, (d, t) ∈ g.walk →
      d ≤ limits.maxDepth ∧ (d = limits.maxDepth → t.subTasks = none)) ∧
    ∀ k : Nat, (∀ s', source.LeadsTo dispatch s.source s' → ∀ y h,
        (source y s').1.drain = .history h → h.childStarts ≤ k) →
      ∃ asked, (stateAfter (Walk.run source dispatch limits watching x s)).session.fetched
          = s.fetched ++ asked ∧
        asked.length ≤ ∑ i ∈ Finset.range (limits.maxDepth + 1), k ^ i := by
  have hspends : ∀ k : ℕ∞, (∀ s', source.LeadsTo dispatch s.source s' → ∀ y h,
      (source y s').1.drain = .history h → (h.childStarts : ℕ∞) ≤ k) →
      Walk.Spent (source.LeadsTo dispatch s.source)
        (∑ i ∈ Finset.range (limits.maxDepth + 1), k ^ i)
        (fun g => Task.Nests (limits.maxDepth + 1) g.tasks) (.start s)
        (Walk.run source dispatch limits watching x s) := by
    intro k hk
    exact Walk.spends_visit (fun y _ => .request y) (fun e p _ => .handle e p)
      (fun y s' hs' => hends s' hs' y) (fun y s' h hs' => hk s' hs' y h) hd _ x (.start s) .start
  have hfree := hspends ⊤ fun _ _ _ _ _ => le_top
  refine ⟨?_, hfree.returned, ?_, ?_, ?_⟩
  · rintro registry rfl
    exact (Walk.erases_visit rfl x (.start s) rfl).1
  · intro more
    exact (Walk.alike_visit rfl more x (.start s) rfl).1
  · intro g w hg d t ht
    have hnests := hfree.result g w hg
    rw [TaskGroup.walk_eq_listings] at ht
    obtain ⟨hlt, hdeepest⟩ := hnests.of_mem_listings ht
    exact ⟨by omega, fun hd => hdeepest (by omega)⟩
  · intro k hk
    obtain ⟨asked, hfetched, hlength⟩ :=
      (hspends k fun s' hs' y h hdrain => Nat.cast_le.2 (hk s' hs' y h hdrain)).fetched
    exact ⟨asked, hfetched, by exact_mod_cast hlength⟩

end Session

namespace Memory

variable {m n : Memory} {r : Registry}

/-- Requests leave the histories in memory as they are. -/
theorem histories_of_leadsTo (h : Source.LeadsTo fetch r.dispatcher m n) :
    n.histories = m.histories := by
  induction h with
  | start => rfl
  | request x _ ih => exact ih
  | handle e p _ ih => exact ih

theorem mem_histories_of_drain {x : Execution} {h : History}
    (hdrain : (fetch x m).1.drain = .history h) : (x, h) ∈ m.histories := by
  rw [m.serves.drain x, answers] at hdrain
  cases hlookup : m.history? x with
  | none =>
    rw [hlookup] at hdrain
    cases hdrain
  | some h' =>
    rw [hlookup] at hdrain
    cases hdrain
    obtain ⟨before, after, hsplit, -⟩ := List.lookup_eq_some_iff.1 hlookup
    rw [hsplit]
    simp

/-- The execution that starts itself, expanded without any check: no tree comes of it, and there is
one request for each level. -/
theorem circle_expansion_bounded :
    (stateAfter (Walk.run fetch Registry.unchecked.dispatcher (Limits.detecting {} false) false
        ⟨"circle", "1"⟩ (.start circle))).session.fetched = List.replicate 17 ⟨"circle", "1"⟩ ∧
      ∃ asked, (stateAfter (Walk.run fetch Registry.unchecked.dispatcher
          (Limits.detecting {} false) false ⟨"circle", "1"⟩ (.start circle))).session.fetched
          = [] ++ asked ∧
        asked.length ≤ ∑ i ∈ Finset.range 17, 1 ^ i := by
  refine ⟨by decide +kernel, ?_⟩
  have hends : ∀ s', Source.LeadsTo fetch Registry.unchecked.dispatcher circle s' → ∀ y,
      ∃ answer, (fetch y s').1.drain = .ofAnswer answer :=
    fun s' _ y => ⟨s'.answers y, s'.serves.drain y⟩
  refine (Session.expansion_bounded fetch Registry.unchecked_leavesChildren.dispatcher
    (Limits.detecting {} false) false ⟨"circle", "1"⟩ (.start circle) hends).2.2.2.2 1 ?_
  intro s' hs' y h hdrain
  have hmem := mem_histories_of_drain hdrain
  rw [histories_of_leadsTo hs'] at hmem
  obtain ⟨-, rfl⟩ := Prod.mk.inj (List.mem_singleton.1 hmem)
  decide

end Memory

end HistoryTree
