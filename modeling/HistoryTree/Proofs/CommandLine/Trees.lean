import HistoryTree.CommandLine.Run
import HistoryTree.Proofs.Expansion.Nesting
import HistoryTree.Proofs.Expansion.Trace
import HistoryTree.Proofs.Task.RoundTrip

/-!
# Trees that are printed

Under a limit of 62 levels of child executions, the tree of an execution nests no deeper than a
reader goes: 63 layers of tasks take 126 levels, and the group itself takes one.  The command line
projects as a session does (`CommandLine.projectFrom_eq_project`) and prints what it projects
(`CommandLine.run_eq_documentExit`).  So whatever it prints as a document under such a limit is read
back as the tree that was projected (`CommandLine.trees_read_back`).
-/

namespace HistoryTree

open Json Json.Reader

/-- A tree with 63 levels of tasks is written within the levels that a reader goes. -/
theorem TaskGroup.nesting_le_of_nests {g : TaskGroup} {depth : Nat}
    (h : Task.Nests (depth + 1) g.tasks) (hdepth : depth ≤ 62) :
    g.toValue.nesting ≤ maxLevels := by
  have htasks := h.nestingOfItems_le
  rw [nesting_toValue, maxLevels]
  omega

theorem TaskGroup.decode_of_nests {g : TaskGroup} {depth : Nat}
    (h : Task.Nests (depth + 1) g.tasks) (hdepth : depth ≤ 62) :
    decodeString reader g.toValue.text = .ok g ∧
      decodeString reader g.toValue.prettyText = .ok g := by
  obtain ⟨htext, hpretty⟩ := g.decode_written
  have hle : g.toValue.nesting ≤ maxLevels := nesting_le_of_nests h hdepth
  rw [within, if_pos hle] at htext hpretty
  exact ⟨htext, hpretty⟩

namespace CommandLine

variable {m : Type → Type} [Monad m] [LawfulMonad m]

/-- What is printed as a document is read as the tree itself, unless it is nested too deep. -/
theorem decode_reportJson (g : TaskGroup) :
    decodeString TaskGroup.reader (reportJson g) = within g.toValue.nesting maxLevels g :=
  (decodeString_prettyText_lineEnd _ g.integral_toValue).trans (TaskGroup.reader_ofValue 126 g)

/-- A projection for the command line has as many levels of tasks as the setting allows. -/
theorem ensures_projectFrom (ask : Execution → m Reading) (limits : Limits) (x : Execution) :
    Ensures (fun r => ∀ g, r = .ok g → Task.Nests (limits.maxDepth + 1) g.tasks)
      (projectFrom ask limits x) :=
  (Expansion.ensures_expand failsWithoutResult_exceptT Registry.standard_leavesChildren _ _ _
    _).run

/-- A tree that is projected for the command line under a limit of 62 levels is what its document
reads as. -/
theorem ensures_readable (ask : Execution → m Reading) (x : Execution) {limits : Limits}
    (hdepth : limits.maxDepth ≤ 62) :
    Ensures (fun r => ∀ g, r = .ok g → decodeString TaskGroup.reader (reportJson g) = .ok g)
      (projectFrom ask limits x) := by
  refine (ensures_projectFrom ask limits x).imp fun r hr g hg => ?_
  have hle : g.toValue.nesting ≤ maxLevels := TaskGroup.nesting_le_of_nests (hr g hg) hdepth
  exact (decode_reportJson g).trans (if_pos hle)

/-- How the program ends that prints a document of what a projection leads to. -/
def documentExit : Except Halt TaskGroup → Exit
  | .ok g => ⟨0, reportJson g, ""⟩
  | .error halt => ⟨1, "", haltMessage halt⟩

/-- What is printed as a document is what is projected. -/
theorem run_eq_documentExit {access : Access m} {args : List String} {origin : Origin}
    {x : Execution} {timeout depth : Nat} {ask : Execution → m Reading}
    (hargs : Request.parse args = .ok ⟨origin, .showTree x true timeout depth⟩)
    (hask : origin.reader? access = some ask) :
    run access args = documentExit <$> projectFrom ask (limitsOf timeout depth) x := by
  rw [run, hargs]
  show Request.answer access _ = _
  rw [Request.answer]
  dsimp only
  rw [hask, map_eq_pure_bind]
  refine bind_congr fun r => ?_
  cases r <;> rfl

/-! ## Projections within a session -/

section sessions

variable {σ : Type} {source : Source σ} {limits : Limits} {registry : Registry}

/-- A computation on a source leads to what one within a session leads to, and leaves the source
where the session does. -/
def Mirrors (α : Type) (c : ExceptT Halt (StateM σ) α) (r : Run σ α) : Prop :=
  ∀ s : Session σ, c.run s.source = (resultOf (r s), (stateAfter (r s)).source)

/-- What holds of the parts of a computation holds of the whole, because a failure ends both. -/
theorem mirrors_congruence : Expansion.Congruence (Mirrors (σ := σ)) where
  pure _ _ := rfl
  throw _ _ := rfl
  bind := by
    intro α β c r f g hc hf s
    have hfirst := hc s
    show _ = (resultOf (EStateM.bind r g s), (stateAfter (EStateM.bind r g s)).source)
    rw [ExceptT.run_bind, EStateM.bind]
    show StateT.bind c.run _ s.source = _
    cases hr : r s with
    | ok a s' =>
      rw [hr] at hfirst
      rw [StateT.bind, hfirst]
      exact hf a s'
    | error halt s' =>
      rw [hr] at hfirst
      rw [StateT.bind, hfirst]
      rfl

/-- To await a reading on the command line is to fetch within a session that does not watch for
cancellation. -/
theorem mirrors_fetch (x : Execution) :
    Mirrors _ (ExceptT.mk do return limits.await x (← source x).drain)
      (Session.fetch source limits false x) := by
  intro s
  show (limits.await x (source x s.source).1.drain, (source x s.source).2) = _
  rw [Session.fetch]
  rcases source x s.source with ⟨reading, next⟩
  cases hdrain : reading.drain <;> simp only [hdrain] <;> rfl

/-- The command line projects what a session projects. -/
theorem projectFrom_eq_project (source : Source σ) (limits : Limits) (x : Execution)
    (s : Session σ) :
    projectFrom source limits x s.source
      = (resultOf (Session.project source .standard limits x s),
        (stateAfter (Session.project source .standard limits x s)).source) :=
  mirrors_congruence.expand mirrors_fetch _ [] x s

/-- Two computations do the same, as long as cancellation is not requested, and do not request it. -/
def SameUncancelled (α : Type) (r r' : Run σ α) : Prop :=
  ∀ s, s.cancelled = false → r s = r' s ∧ (stateAfter (r s)).cancelled = false

theorem sameUncancelled_congruence : Expansion.Congruence (SameUncancelled (σ := σ)) where
  pure _ _ hs := ⟨rfl, hs⟩
  throw _ _ hs := ⟨rfl, hs⟩
  bind := by
    intro α β r r' f g hr hf s hs
    obtain ⟨hsame, hafter⟩ := hr s hs
    show EStateM.bind r f s = EStateM.bind r' g s ∧ (stateAfter (EStateM.bind r f s)).cancelled = _
    rw [EStateM.bind, EStateM.bind, ← hsame]
    cases hfirst : r s with
    | ok a s' =>
      rw [hfirst] at hafter
      exact hf a s' hafter
    | error halt s' =>
      rw [hfirst] at hafter
      exact ⟨rfl, hafter⟩

/-- With a source that never requests cancellation, it does not matter whether it is watched for. -/
theorem projectUnlessCancelled_eq_project
    (hquiet : ∀ x t, (source x t).1.drain ≠ .cancelling) (x : Execution) {s : Session σ}
    (hs : s.cancelled = false) :
    Session.projectUnlessCancelled source registry limits x s
      = Session.project source registry limits x s := by
  have hfetch : ∀ y, SameUncancelled _ (Session.fetch source limits true y)
      (Session.fetch source limits false y) := by
    intro y s hs
    have hne := hquiet y s.source
    rw [Session.fetch, Session.fetch]
    rcases hsource : source y s.source with ⟨reading, next⟩
    rw [hsource] at hne
    cases hdrain : reading.drain with
    | cancelling => exact absurd hdrain hne
    | _ => simp [hs, hdrain, Session.wait, stateAfter]
  rw [Session.projectUnlessCancelled_of_not_cancelled source hs]
  exact (sameUncancelled_congruence.expand hfetch _ [] x s hs).1

end sessions

/-- A tree is what its document reads as in either layout, up to 127 levels of containers, and
malformed beyond that.  So every projection with at most 62 levels of child executions can be read
back.  What the command line prints as a document is the tree that it projects, which is the one
that a session projects; so under such a limit, every document that it prints can be read back. -/
theorem trees_read_back :
    (∀ g : TaskGroup,
      (g.toValue.nesting ≤ 127 →
        decodeString TaskGroup.reader g.toValue.text = .ok g ∧
        decodeString TaskGroup.reader g.toValue.prettyText = .ok g) ∧
      (127 < g.toValue.nesting →
        decodeString TaskGroup.reader g.toValue.text = defect .malformed ∧
        decodeString TaskGroup.reader g.toValue.prettyText = defect .malformed)) ∧
    (∀ (σ : Type) (source : Source σ) (limits : Limits) (x : Execution) (s s' : Session σ)
      (g : TaskGroup), limits.maxDepth ≤ 62 →
      (Session.project source .standard limits x s = .ok g s' ∨
        Session.projectUnlessCancelled source .standard limits x s = .ok g s') →
      decodeString TaskGroup.reader g.toValue.text = .ok g ∧
        decodeString TaskGroup.reader g.toValue.prettyText = .ok g) ∧
    (∀ (m : Type → Type) [Monad m] [LawfulMonad m] (access : Access m) (args : List String)
      (origin : Origin) (x : Execution) (timeout depth : Nat),
      Request.parse args = .ok ⟨origin, .showTree x true timeout depth⟩ → depth ≤ 62 →
      (origin.reader? access = none →
        run access args = pure ⟨1, "", "one of --dir or --url is required"⟩) ∧
      ∀ ask, origin.reader? access = some ask →
        run access args = documentExit <$> projectFrom ask (limitsOf timeout depth) x ∧
        Ensures (fun r => ∀ g, r = .ok g → decodeString TaskGroup.reader (reportJson g) = .ok g)
          (projectFrom ask (limitsOf timeout depth) x)) ∧
    ∀ (σ : Type) (source : Source σ) (limits : Limits) (x : Execution) (s : Session σ),
      projectFrom source limits x s.source
        = (resultOf (Session.project source .standard limits x s),
          (stateAfter (Session.project source .standard limits x s)).source) ∧
      (s.cancelled = false → (∀ y t, (source y t).1.drain ≠ .cancelling) →
        Session.projectUnlessCancelled source .standard limits x s
          = Session.project source .standard limits x s) := by
  refine ⟨fun g => ?_, ?_, ?_, ?_⟩
  · obtain ⟨htext, hpretty⟩ := g.decode_written
    rw [htext, hpretty]
    refine ⟨fun h => ?_, fun h => ?_⟩
    · exact ⟨if_pos h, if_pos h⟩
    · exact ⟨if_neg (Nat.not_le.2 h), if_neg (Nat.not_le.2 h)⟩
  · intro σ source limits x s s' g hdepth hproject
    have hnests : Task.Nests (limits.maxDepth + 1) g.tasks := by
      obtain h | h := hproject
      · exact (Session.ensures_project Registry.standard_leavesChildren).of_eq_ok h
      · exact (Session.ensures_projectUnlessCancelled Registry.standard_leavesChildren).of_eq_ok h
    exact TaskGroup.decode_of_nests hnests hdepth
  · intro m _ _ access args origin x timeout depth hargs hdepth
    refine ⟨fun hnone => ?_, fun ask hask => ⟨run_eq_documentExit hargs hask, ?_⟩⟩
    · rw [run, hargs]
      show Request.answer access _ = _
      rw [Request.answer, hnone]
    · exact ensures_readable ask x hdepth
  · intro σ source limits x s
    exact ⟨projectFrom_eq_project source limits x s,
      fun hs hquiet => projectUnlessCancelled_eq_project hquiet x hs⟩

/-- Answers every request from histories in memory. -/
def memoryDesk : Access (StateM Memory) where
  fileAt _ := pure .missing
  ask _ := Memory.fetch
  help _ := ""

/-- The tour as it is projected is what is printed, and what this is read back as. -/
theorem tour_tree_read_back :
    ∃ g s', Session.project Memory.fetch .standard (limitsOf 30 3) ⟨"tour", "1"⟩
        (.start Memory.tour) = .ok g s' ∧
      decodeString TaskGroup.reader g.toValue.text = .ok g ∧
      run memoryDesk ["show", "tour/1", "--json", "--max-depth", "3", "--url", "http://svc.test"]
        Memory.tour = (⟨0, reportJson g, ""⟩, s'.source) ∧
      decodeString TaskGroup.reader (reportJson g) = .ok g := by
  obtain ⟨-, hprojected, hprinted, hsession⟩ := trees_read_back
  let x : Execution := ⟨"tour", "1"⟩
  let s : Session Memory := .start Memory.tour
  obtain ⟨g, s', hg⟩ : ∃ g s', Session.project Memory.fetch .standard (limitsOf 30 3) x s
      = .ok g s' := ⟨_, _, rfl⟩
  obtain ⟨hrun, hreadable⟩ := (hprinted (StateM Memory) memoryDesk
    ["show", "tour/1", "--json", "--max-depth", "3", "--url", "http://svc.test"]
    ⟨none, some "http://svc.test"⟩ x 30 3 (by decide +kernel) (by decide)).2 _ rfl
  have hproject := (hsession Memory Memory.fetch (limitsOf 30 3) x s).1
  rw [hg] at hproject
  refine ⟨g, s', hg, (hprojected Memory Memory.fetch (limitsOf 30 3) x s s' g (by decide)
    (.inl hg)).1, ?_, ?_⟩
  · rw [hrun]
    show (documentExit (projectFrom Memory.fetch (limitsOf 30 3) x s.source).1,
      (projectFrom Memory.fetch (limitsOf 30 3) x s.source).2) = _
    rw [hproject]
    rfl
  · have hread := hreadable.of_state s.source g
    exact hread (congrArg Prod.fst hproject)

end CommandLine

end HistoryTree
