import HistoryTree.Proofs.Expansion.Order
import HistoryTree.Proofs.Source.Agreement

/-!
# Cancellation is all or nothing

A projection that watches for cancellation ends as cancelled exactly if cancellation was requested
before it begins, or is requested while one of the histories is awaited for which the projection
asks (`Session.cancellation_all_or_nothing`).  In all other cases it does what a projection does
that does not watch for it.

Waits that end without a history are failures of a trace: `Trace.await` asks for histories, some of
which are given up, and the first one that is given up is the last one that is asked for
(`Trace.stopsAt_congruence`).  What a script serves is such a trace, with one way of giving up for
those who watch for cancellation and another for those who do not (`Script.ends`); a session enacts
the trace and keeps note of the requests (`Session.enact`).
-/

namespace HistoryTree

/-! ## Waits that end without a history -/

namespace Trace

open Expansion (Congruence below)

variable {ends ends' : Execution → Except Halt History} {limits : Limits}
  {answers : Execution → Except SourceError History}

/-- Asks for the history of an execution, where the wait ends in the given way. -/
def await (ends : Execution → Except Halt History) (x : Execution) : Trace History :=
  ⟨ends x, [x]⟩

/-- Two computations ask for the same executions and lead to the same results, but may fail in
different ways. -/
def SameButFailures (α : Type) (t u : Trace α) : Prop :=
  t.asked = u.asked ∧ ∀ a, t.result = .ok a ↔ u.result = .ok a

theorem sameButFailures_congruence : Congruence SameButFailures where
  pure _ := ⟨rfl, fun _ => Iff.rfl⟩
  throw _ := ⟨rfl, fun _ => Iff.rfl⟩
  bind := by
    rintro α β t u f g ⟨hasked, hresult⟩ hfg
    cases ht : t.result with
    | ok a =>
      obtain ⟨hasked', hresult'⟩ := hfg a
      rw [bind_of_ok ht, bind_of_ok ((hresult a).1 ht)]
      exact ⟨by rw [hasked, hasked'], hresult'⟩
    | error halt =>
      cases hu : u.result with
      | ok a => cases ht.symm.trans ((hresult a).2 hu)
      | error halt' =>
        rw [bind_of_error ht, bind_of_error hu]
        exact ⟨hasked, by simp⟩

/-- However the waits end that are in vain, the same executions are asked for. -/
theorem asked_below_await (hends : ∀ x h, ends x = .ok h ↔ answers x = .ok h)
    (chain : List Execution) (x : Execution) :
    (below .standard limits (await ends) chain x).asked
      = (below .standard limits (ask answers) chain x).asked := by
  refine (sameButFailures_congruence.expand ?_ _ chain x).1
  intro y
  refine ⟨?_, fun h => (hends y h).trans result_ask_eq_ok_iff.symm⟩
  rw [ask]
  cases answers y <;> rfl

/-- A computation stops with the first wait that is in vain. -/
def StopsAt (ends : Execution → Except Halt History) (α : Type) (t _ : Trace α) : Prop :=
  ∀ asked y halt, asked ++ [y] <+: t.asked → ends y = .error halt →
    t.result = .error halt ∧ t.asked = asked ++ [y]

/-- The first wait that is in vain is the last: no later part of a computation is reached. -/
theorem stopsAt_congruence (ends : Execution → Except Halt History) :
    Congruence (StopsAt ends) where
  pure _ asked y _ h _ := by simp at h
  throw _ asked y _ h _ := by simp at h
  bind := by
    rintro α β t u f g ht hf asked y halt hasked hy
    cases hresult : t.result with
    | error halt' =>
      rw [bind_of_error hresult] at hasked ⊢
      obtain ⟨hfail, hlast⟩ := ht asked y halt hasked hy
      obtain rfl : halt' = halt := Except.error.inj (hresult.symm.trans hfail)
      exact ⟨rfl, hlast⟩
    | ok a =>
      rw [bind_of_ok hresult] at hasked ⊢
      rcases concat_prefix_append_iff.1 hasked with hasked | ⟨rest, rfl, hrest⟩
      · cases hresult.symm.trans (ht asked y halt hasked hy).1
      · obtain ⟨hfail, hlast⟩ := hf a rest y halt hrest hy
        exact ⟨hfail, by rw [hlast, List.append_assoc]⟩

theorem stopsAt_await (x : Execution) : StopsAt ends _ (await ends x) (await ends x) := by
  intro asked y halt hasked hy
  obtain ⟨rfl, rfl⟩ := concat_prefix_singleton_iff.1 hasked
  exact ⟨hy, rfl⟩

/-- The wait for an execution that is in vain is what the expansion fails for. -/
theorem below_await_of_prefix {chain asked : List Execution} {x y : Execution} {halt : Halt}
    (hasked : asked ++ [y] <+: (below .standard limits (await ends) chain x).asked)
    (hy : ends y = .error halt) :
    (below .standard limits (await ends) chain x).result = .error halt ∧
      (below .standard limits (await ends) chain x).asked = asked ++ [y] :=
  (stopsAt_congruence ends).expand stopsAt_await _ chain x asked y halt hasked hy

/-- Two computations do not differ if the waits end alike for which the first one asks. -/
def SameIfAsked (ends ends' : Execution → Except Halt History) (α : Type) (t u : Trace α) : Prop :=
  (∀ y ∈ t.asked, ends y = ends' y) → t = u

/-- It does not matter how waits end that are not asked for. -/
theorem sameIfAsked_congruence (ends ends' : Execution → Except Halt History) :
    Congruence (SameIfAsked ends ends') where
  pure _ _ := rfl
  throw _ _ := rfl
  bind := by
    intro α β t u f g htu hfg hsame
    cases hresult : t.result with
    | error halt =>
      rw [bind_of_error hresult] at hsame
      obtain rfl := htu hsame
      rw [bind_of_error hresult, bind_of_error hresult]
    | ok a =>
      rw [bind_of_ok hresult] at hsame
      obtain rfl := htu fun y hy => hsame y (List.mem_append_left _ hy)
      rw [bind_of_ok hresult, bind_of_ok hresult,
        hfg a fun y hy => hsame y (List.mem_append_right _ hy)]

/-- An expansion depends only on how the waits end for which it asks. -/
theorem below_await_congr {chain : List Execution} {x : Execution}
    (hsame : ∀ y ∈ (below .standard limits (await ends) chain x).asked, ends y = ends' y) :
    below .standard limits (await ends) chain x = below .standard limits (await ends') chain x := by
  refine (sameIfAsked_congruence ends ends').expand ?_ _ chain x hsame
  intro y hy
  rw [await, await, hy y (List.mem_singleton_self y)]

end Trace

/-! ## What a script serves -/

namespace Script

variable {script : Script} {limits : Limits} {watching : Bool} {x : Execution} {h : History}

/-- Whether the entry of an execution requests cancellation. -/
def fires (script : Script) (x : Execution) : Bool :=
  match script.lookup x with
  | some (_, .cancel) => true
  | _ => false

/-- What waiting for the end of a scripted history leads to. -/
def drained (script : Script) (x : Execution) : Drained := (script.reading x).drain

/-- How the wait for a scripted history ends. -/
def ends (script : Script) (limits : Limits) (watching : Bool) (x : Execution) :
    Except Halt History :=
  if watching && script.fires x then .error (.failed (.source .cancelled))
  else limits.await x (script.drained x)

/-- Waiting leads to a request for cancellation exactly where the script has one. -/
theorem drained_eq_cancelling_iff : script.drained x = .cancelling ↔ script.fires x = true := by
  rw [drained, reading, fires]
  rcases script.lookup x with _ | ⟨h, _ | ⟨cause, hne⟩ | _ | _ | _⟩ <;>
    simp [Reading.drain, Reading.whole]

/-- No script answers that its reader was told to stop. -/
theorem answersOf_drained_ne_cancelled : answersOf script.drained x ≠ .error .cancelled := by
  rw [answersOf, drained, reading]
  rcases script.lookup x with _ | ⟨h, cue⟩
  · simp [Reading.drain, Drained.answer]
  · cases cue with
    | breakOff cause hne =>
      intro hcancelled
      exact hne (Except.error.inj hcancelled)
    | finish | stall | ignore | cancel => simp [Reading.drain, Reading.whole, Drained.answer]

/-- Who watches for cancellation is stopped where the script requests it. -/
theorem ends_of_fires (hx : script.fires x = true) :
    script.ends limits true x = .error (.failed (.source .cancelled)) := by
  rw [ends, hx]
  rfl

/-- Where the script does not request cancellation, it does not matter who watches for it. -/
theorem ends_of_not_fires (hx : script.fires x = false) :
    script.ends limits watching x = limits.await x (script.drained x) := by
  rw [ends, hx, Bool.and_false]
  rfl

theorem ends_plain : script.ends limits false x = limits.await x (script.drained x) := rfl

theorem await_eq_ok_iff (limits : Limits) {drained : Drained} :
    limits.await x drained = .ok h ↔ drained.answer x = .ok h := by
  cases drained <;> simp [Limits.await, Drained.answer]

/-- What is delivered does not depend on whether cancellation is watched for. -/
theorem ends_eq_ok_iff : script.ends limits watching x = .ok h ↔
    answersOf script.drained x = .ok h := by
  rw [answersOf, ← await_eq_ok_iff limits, ends]
  split
  · rename_i hfires
    have hx := drained_eq_cancelling_iff.2 (Bool.and_eq_true_iff.1 hfires).2
    simp [hx, Limits.await]
  · exact Iff.rfl

theorem not_fires_of_ends_eq_ok (hx : script.ends limits watching x = .ok h) :
    script.fires x = false := by
  rw [Bool.eq_false_iff]
  intro hfires
  rw [ends_eq_ok_iff, answersOf, drained_eq_cancelling_iff.2 hfires] at hx
  cases hx

end Script

/-! ## Sessions enact traces -/

namespace Session

variable {α β : Type} {script : Script} {limits : Limits} {watching : Bool} {x : Execution}
  {s : Session Unit}

/-- The session after requests for scripted histories. -/
def afterWaiting (script : Script) (s : Session Unit) (asked : List Execution) : Session Unit :=
  ⟨(), s.fetched ++ asked, s.cancelled || asked.any script.fires⟩

theorem afterWaiting_nil : s.afterWaiting script [] = s := by
  simp [afterWaiting]

theorem afterWaiting_append (asked asked' : List Execution) :
    s.afterWaiting script (asked ++ asked')
      = (s.afterWaiting script asked).afterWaiting script asked' := by
  simp [afterWaiting, Bool.or_assoc]

/-- The computation within a session that leads to what a trace says, where requests for scripted
histories may request cancellation. -/
def enact (script : Script) (t : Trace α) : Run Unit α := fun s =>
  match t.result with
  | .ok a => .ok a (s.afterWaiting script t.asked)
  | .error halt => .error halt (s.afterWaiting script t.asked)

theorem enact_of_ok {t : Trace α} {a : α} (h : t.result = .ok a) :
    enact script t s = .ok a (s.afterWaiting script t.asked) := by
  rw [enact, h]

theorem enact_of_error {t : Trace α} {halt : Halt} (h : t.result = .error halt) :
    enact script t s = .error halt (s.afterWaiting script t.asked) := by
  rw [enact, h]

theorem stateAfter_enact (t : Trace α) :
    stateAfter (enact script t s) = s.afterWaiting script t.asked := by
  rw [enact]
  split <;> rfl

theorem resultOf_enact (t : Trace α) : resultOf (enact script t s) = t.result := by
  rw [enact]
  split <;> simp [resultOf, *]

/-- A computation enacts a trace wherever cancellation is not watched for or not requested yet.  A
trace that has a result makes no request for it. -/
structure Enacts (script : Script) (watching : Bool) (α : Type) (r : Run Unit α) (t : Trace α) :
    Prop where
  run : ∀ s, (watching = true → s.cancelled = false) → r s = enact script t s
  quiet : ∀ a, t.result = .ok a → t.asked.any script.fires = false

/-- A session enacts a sequence of traces if it enacts each of them, as long as no request for
cancellation stands when one is watched for. -/
theorem enacts_congruence (script : Script) (watching : Bool) :
    Expansion.Congruence (Enacts script watching) where
  pure a := by
    refine ⟨fun s _ => ?_, fun _ _ => rfl⟩
    rw [enact_of_ok (Trace.result_pure a), Trace.asked_pure, afterWaiting_nil]
    rfl
  throw halt := by
    refine ⟨fun s _ => ?_, nofun⟩
    rw [enact_of_error (Trace.result_throw halt), Trace.asked_throw, afterWaiting_nil]
    rfl
  bind := by
    intro α β r t f g hr hf
    cases ht : t.result with
    | error halt =>
      refine ⟨fun s hs => ?_, fun b hb => ?_⟩
      · show EStateM.bind r f s = _
        rw [EStateM.bind, hr.run s hs, Trace.bind_of_error ht, enact_of_error ht,
          enact_of_error rfl]
      · cases (Trace.result_bind_of_error ht).symm.trans hb
    | ok a =>
      have hquiet := hr.quiet a ht
      rw [Trace.bind_of_ok ht]
      refine ⟨fun s hs => ?_, fun b hb => ?_⟩
      · show EStateM.bind r f s = _
        rw [EStateM.bind, hr.run s hs, enact_of_ok ht]
        show f a (s.afterWaiting script t.asked) = _
        rw [(hf a).run, enact, enact, afterWaiting_append]
        simpa [afterWaiting, hquiet] using hs
      · show (t.asked ++ (g a).asked).any script.fires = false
        rw [List.any_append, hquiet, (hf a).quiet b hb, Bool.false_or]

theorem fetch_script : fetch script.fetch limits watching x s =
    match script.drained x with
    | .history h => .ok h { s with fetched := s.fetched ++ [x] }
    | .failed e => .error (.failed (.source e)) { s with fetched := s.fetched ++ [x] }
    | .stalled => wait limits watching x { s with fetched := s.fetched ++ [x] }
    | .cancelling => wait limits watching x ⟨(), s.fetched ++ [x], true⟩ := rfl

/-- To fetch from a script is to await its answer. -/
theorem enacts_fetch (x : Execution) :
    Enacts script watching _ (fetch script.fetch limits watching x)
      (Trace.await (script.ends limits watching) x) := by
  constructor
  · intro s hs
    have hafter : s.afterWaiting script [x]
        = ⟨(), s.fetched ++ [x], s.cancelled || script.fires x⟩ := by simp [afterWaiting]
    rw [fetch_script, enact]
    simp only [Trace.await]
    rw [hafter]
    cases hfires : script.fires x with
    | true =>
      rw [Script.drained_eq_cancelling_iff.2 hfires, Bool.or_true]
      cases watching with
      | true =>
        rw [Script.ends_of_fires hfires]
        rfl
      | false =>
        rw [Script.ends_plain, Script.drained_eq_cancelling_iff.2 hfires]
        rfl
    | false =>
      rw [Script.ends_of_not_fires hfires, Bool.or_false]
      have hwait : (watching && s.cancelled) = false := by
        cases watching with
        | true => exact hs rfl
        | false => rfl
      cases hdrained : script.drained x with
      | history h => rfl
      | failed e => rfl
      | stalled =>
        rw [wait, hwait]
        rfl
      | cancelling => simp [Script.drained_eq_cancelling_iff.1 hdrained] at hfires
  · intro h hx
    rw [Trace.await, List.any_cons, List.any_nil, Script.not_fires_of_ends_eq_ok hx,
      Bool.false_or]

end Session

/-! ## Projections from scripts -/

namespace Script

open Expansion (Awaits below)

variable {script : Script} {limits : Limits} {watching : Bool} {x y : Execution}
  {asked : List Execution} {halt : Halt}

/-- What projecting an execution leads to, and what it asks for. -/
def trace (script : Script) (limits : Limits) (watching : Bool) (x : Execution) :
    Trace TaskGroup :=
  below .standard limits (Trace.await (script.ends limits watching)) [] x

theorem awaits_iff (watching : Bool) : Awaits limits (answersOf script.drained) [] x asked y ↔
    asked ++ [y] <+: (script.trace limits watching x).asked := by
  rw [Trace.awaits_iff, trace, Trace.asked_below_await fun _ _ => ends_eq_ok_iff]

/-- A projection ends with the first wait that is in vain. -/
theorem trace_of_awaits (hy : Awaits limits (answersOf script.drained) [] x asked y)
    (hhalt : script.ends limits watching y = .error halt) :
    (script.trace limits watching x).result = .error halt ∧
      (script.trace limits watching x).asked = asked ++ [y] :=
  Trace.below_await_of_prefix ((awaits_iff watching).1 hy) hhalt

/-- What a trace of a script asks for is awaited at some point. -/
theorem exists_awaits_of_mem (hy : y ∈ (script.trace limits watching x).asked) :
    ∃ asked, Awaits limits (answersOf script.drained) [] x asked y := by
  obtain ⟨asked, after, hasked⟩ := List.append_of_mem hy
  exact ⟨asked, (awaits_iff watching).2 ⟨after, by rw [hasked]; simp⟩⟩

/-- All histories before the one that is waited for have been delivered. -/
theorem exists_ends_of_awaits (hy : Awaits limits (answersOf script.drained) [] x asked y)
    {z : Execution} (hz : z ∈ asked) : ∃ h, script.ends limits false z = .ok h := by
  cases hends : script.ends limits false z with
  | ok h => exact ⟨h, rfl⟩
  | error halt =>
    obtain ⟨before, after, rfl⟩ := List.append_of_mem hz
    have hprefix := (awaits_iff false).1 hy
    have hreached : before ++ [z] <+: (script.trace limits false x).asked :=
      .trans ⟨after ++ [y], by simp⟩ hprefix
    rw [trace, (Trace.below_await_of_prefix hreached hends).2] at hprefix
    have hlength := hprefix.length_le
    simp only [List.length_append, List.length_cons, List.length_nil] at hlength
    omega

/-- Of the waits up to a point only the last one can request cancellation: those before it ended
with a history. -/
theorem any_fires_of_awaits (hy : Awaits limits (answersOf script.drained) [] x asked y) :
    (asked ++ [y]).any script.fires = script.fires y := by
  have hquiet : asked.any script.fires = false := by
    rw [List.any_eq_false]
    intro z hz
    obtain ⟨h, hends⟩ := exists_ends_of_awaits hy hz
    simp [not_fires_of_ends_eq_ok hends]
  simp [hquiet]

/-- Where no entry that is waited for requests cancellation, it does not matter whether it is
watched for. -/
theorem trace_watching (hquiet : ∀ asked y, Awaits limits (answersOf script.drained) [] x asked y →
    script.fires y = false) : script.trace limits true x = script.trace limits false x := by
  refine Trace.below_await_congr fun y hy => ?_
  obtain ⟨asked, hawaits⟩ := exists_awaits_of_mem hy
  have hfires := hquiet asked y hawaits
  rw [ends_of_not_fires hfires, ends_of_not_fires hfires]

/-- A wait that is given up is like one that is refused, but for the failure that it ends with. -/
theorem agreesUnless_ask (script : Script) (limits : Limits) (x : Execution) :
    Trace.AgreesUnless (fun halt => ∃ y, halt = limits.giveUp y) _ (script.trace limits false x)
      (below .standard limits (Trace.ask (answersOf script.drained)) [] x) := by
  refine (Trace.agreesUnless_congruence _).expand ?_ _ [] x
  intro y
  rw [Trace.AgreesUnless, Trace.await, Trace.ask, answersOf, ends_plain]
  cases script.drained y with
  | history h => exact .inr rfl
  | failed e => exact .inr rfl
  | stalled => exact .inl ⟨_, rfl, y, rfl⟩
  | cancelling => exact .inl ⟨_, rfl, y, rfl⟩

theorem giveUp_ne_cancelled : limits.giveUp y ≠ .failed (.source .cancelled) := by
  rw [Limits.giveUp]
  split <;> simp

/-- Without watching for it, no projection ends as cancelled. -/
theorem result_trace_ne_cancelled :
    (script.trace limits false x).result ≠ .error (.failed (.source .cancelled)) := by
  intro hfail
  rcases agreesUnless_ask script limits x with ⟨halt, hhalt, y, rfl⟩ | hsame
  · exact giveUp_ne_cancelled (Except.error.inj (hhalt.symm.trans hfail))
  · rw [← hsame] at hfail
    obtain ⟨chain, y, cause, hcause, -, hfault⟩ := Trace.exists_fault_of_below .root hfail
    cases hcause
    cases hfault with
    | source _ hanswer => exact answersOf_drained_ne_cancelled hanswer
    | event _ _ _ hbreaks => cases hbreaks

end Script

namespace Session

open Expansion (Awaits)

variable {script : Script} {limits : Limits} {x : Execution} {s : Session Unit}

/-- A session that does not watch for cancellation enacts the trace of the script. -/
theorem project_script : project script.fetch .standard limits x s
    = enact script (script.trace limits false x) s :=
  ((enacts_congruence script false).expand enacts_fetch _ [] x).run s nofun

/-- A session that watches for cancellation enacts the trace of the script in which waits are
stopped by it. -/
theorem projectUnlessCancelled_script (hs : s.cancelled = false) :
    projectUnlessCancelled script.fetch .standard limits x s
      = enact script (script.trace limits true x) s := by
  rw [projectUnlessCancelled_of_not_cancelled _ hs]
  exact ((enacts_congruence script true).expand enacts_fetch _ [] x).run s fun _ => hs

/-- What projecting an execution from a script leads to in a session, whether or not cancellation is
watched for. -/
structure CancelsAllOrNothing (script : Script) (limits : Limits) (x : Execution)
    (s : Session Unit) : Prop where
  /-- Once cancellation is requested, a projection that watches for it ends before it asks for
  anything. -/
  requested : s.cancelled = true → projectUnlessCancelled script.fetch .standard limits x s
    = .error (.failed (.source .cancelled)) s
  /-- Otherwise it ends as cancelled with the first entry that it awaits and that requests
  cancellation, wherever this is nested. -/
  reached : s.cancelled = false → ∀ asked y,
    Awaits limits (answersOf script.drained) [] x asked y → script.fires y = true →
    projectUnlessCancelled script.fetch .standard limits x s
      = .error (.failed (.source .cancelled)) ⟨(), s.fetched ++ asked ++ [y], true⟩
  /-- Without such an entry it does what a plain projection does, and cancellation is not
  requested. -/
  unreached : s.cancelled = false →
    (∀ asked y, Awaits limits (answersOf script.drained) [] x asked y → script.fires y = false) →
    projectUnlessCancelled script.fetch .standard limits x s
        = project script.fetch .standard limits x s ∧
      (stateAfter (project script.fetch .standard limits x s)).cancelled = false
  /-- A plain projection ends with the first history that does not arrive: with its error, or with
  the time limit, also where the entry requests cancellation. -/
  stopped : ∀ asked y halt, Awaits limits (answersOf script.drained) [] x asked y →
    limits.await y (script.drained y) = .error halt →
    project script.fetch .standard limits x s
      = .error halt ⟨(), s.fetched ++ asked ++ [y], s.cancelled || script.fires y⟩
  /-- A plain projection never ends as cancelled. -/
  plain : resultOf (project script.fetch .standard limits x s)
    ≠ .error (.failed (.source .cancelled))
  /-- Nor does a request for cancellation change what it leads to or what it asks for. -/
  heedless : resultOf (project script.fetch .standard limits x s.cancel)
      = resultOf (project script.fetch .standard limits x s) ∧
    (stateAfter (project script.fetch .standard limits x s.cancel)).fetched
      = (stateAfter (project script.fetch .standard limits x s)).fetched

/-- Each part is read off the two traces of the script, which agree up to the first entry that
requests cancellation. -/
theorem cancelsAllOrNothing (script : Script) (limits : Limits) (x : Execution)
    (s : Session Unit) : CancelsAllOrNothing script limits x s where
  requested hs := projectUnlessCancelled_of_cancelled _ hs
  reached hs asked y hy hfires := by
    obtain ⟨hresult, hasked⟩ := Script.trace_of_awaits hy (Script.ends_of_fires hfires)
    rw [projectUnlessCancelled_script hs, enact_of_error hresult, hasked, afterWaiting]
    simp [hfires]
  unreached hs hquiet := by
    have hsame := Script.trace_watching hquiet
    rw [projectUnlessCancelled_script hs, project_script, hsame, stateAfter_enact]
    refine ⟨rfl, ?_⟩
    rw [afterWaiting, hs, Bool.false_or, List.any_eq_false]
    intro y hy
    obtain ⟨asked, hawaits⟩ := Script.exists_awaits_of_mem hy
    simp [hquiet asked y hawaits]
  stopped asked y halt hy hhalt := by
    have hends : script.ends limits false y = .error halt := hhalt
    obtain ⟨hresult, hasked⟩ := Script.trace_of_awaits hy hends
    rw [project_script, enact_of_error hresult, hasked, afterWaiting,
      Script.any_fires_of_awaits hy, List.append_assoc]
  plain := by
    rw [project_script, resultOf_enact]
    exact Script.result_trace_ne_cancelled
  heedless := by
    rw [project_script, project_script, resultOf_enact, resultOf_enact, stateAfter_enact,
      stateAfter_enact]
    exact ⟨rfl, rfl⟩

/-! ## Sessions in the course of time -/

/-- What happens in a session: cancellation is requested, or an execution is projected. -/
inductive Act where
  | cancel
  | project (x : Execution)
  | projectUnlessCancelled (x : Execution)
  deriving DecidableEq, Repr

/-- The session after an act, where histories come from a script. -/
def Act.perform (script : Script) (limits : Limits) (s : Session Unit) : Act → Session Unit
  | cancel => s.cancel
  | project x => stateAfter (Session.project script.fetch .standard limits x s)
  | projectUnlessCancelled x =>
    stateAfter (Session.projectUnlessCancelled script.fetch .standard limits x s)

/-- The session after acts in a row. -/
def afterActs (script : Script) (limits : Limits) (s : Session Unit) (acts : List Act) :
    Session Unit :=
  acts.foldl (Act.perform script limits) s

/-- No act takes a request for cancellation back. -/
theorem cancelled_perform (hs : s.cancelled = true) (act : Act) :
    (act.perform script limits s).cancelled = true := by
  cases act with
  | cancel => rfl
  | project x =>
    rw [Act.perform, project_script, stateAfter_enact, afterWaiting, hs, Bool.true_or]
  | projectUnlessCancelled x =>
    rw [Act.perform, projectUnlessCancelled_of_cancelled _ hs]
    exact hs

/-- A request for cancellation is never taken back, whatever is done after it. -/
theorem cancelled_afterActs (hs : s.cancelled = true) (acts : List Act) :
    (afterActs script limits s acts).cancelled = true := by
  induction acts generalizing s with
  | nil => exact hs
  | cons act acts ih => exact ih (cancelled_perform hs act)

/-- Whatever happened in a session before, cancellation is all or nothing in it, and once it is
requested it stays so. -/
theorem cancellation_all_or_nothing (script : Script) (limits : Limits) (acts : List Act)
    (x : Execution) :
    let s := afterActs script limits (start ()) acts
    CancelsAllOrNothing script limits x s ∧
      (s.cancelled = true → ∀ more, (afterActs script limits s more).cancelled = true) :=
  ⟨cancelsAllOrNothing script limits x _, fun hs more => cancelled_afterActs hs more⟩

end Session

namespace Script

/-- The history of an order, and that of its payment, which does not end before cancellation is
requested. -/
def interrupted : Script :=
  [(⟨"order", "1"⟩,
      [.of ⟨1⟩ (.childInitiated "acme.Pay"), .of ⟨2⟩ (.childStarted ⟨1⟩ ⟨"payment", "1"⟩)],
      .finish),
    (⟨"payment", "1"⟩, [.of ⟨1⟩ (.timerStarted none)], .cancel)]

/-- The payment of the interrupted order requests cancellation; the projection that watches for it
is cancelled then, and so is every later one. -/
theorem interrupted_cancelled_once :
    Expansion.Awaits {} (answersOf interrupted.drained) [] ⟨"order", "1"⟩ [⟨"order", "1"⟩]
        ⟨"payment", "1"⟩ ∧
      Session.projectUnlessCancelled interrupted.fetch .standard {} ⟨"order", "1"⟩ (.start ())
        = .error (.failed (.source .cancelled)) ⟨(), [⟨"order", "1"⟩, ⟨"payment", "1"⟩], true⟩ ∧
      ∀ more, (Session.afterActs interrupted {} (Session.afterActs interrupted {} (.start ())
        [.projectUnlessCancelled ⟨"order", "1"⟩]) more).cancelled = true := by
  have hawaits : Expansion.Awaits {} (answersOf interrupted.drained) [] ⟨"order", "1"⟩
      [⟨"order", "1"⟩] ⟨"payment", "1"⟩ := (awaits_iff false).2 ⟨[], rfl⟩
  have hbefore := Session.cancellation_all_or_nothing interrupted {} [] ⟨"order", "1"⟩
  have hafter := Session.cancellation_all_or_nothing interrupted {}
    [.projectUnlessCancelled ⟨"order", "1"⟩] ⟨"order", "1"⟩
  exact ⟨hawaits, hbefore.1.reached rfl _ _ hawaits rfl, hafter.2 rfl⟩

/-- A projection that does not watch for cancellation waits for the payment as long as it may. -/
example : Session.project interrupted.fetch .standard {} ⟨"order", "1"⟩ (.start ())
    = .error (.failed (.source (.timeout ⟨"payment", "1"⟩)))
        ⟨(), [⟨"order", "1"⟩, ⟨"payment", "1"⟩], true⟩ := rfl

end Script

end HistoryTree
