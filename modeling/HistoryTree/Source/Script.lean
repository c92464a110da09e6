import HistoryTree.Source.Reading

/-!
# Scripted histories

A script serves histories like a store in memory, and says of each what follows its events,
so that breaking, stalling and cancelled streams can be played.
-/

namespace HistoryTree

/-- What follows the events of a scripted history. -/
inductive Cue where
  | finish
  /-- The stream breaks, for any cause but that its reader was told to stop. -/
  | breakOff (cause : SourceError) (ne_cancelled : cause ≠ .cancelled)
  /-- Nothing more arrives. -/
  | stall
  /-- Not even the request is answered. -/
  | ignore
  /-- Cancellation is requested, and nothing more arrives. -/
  | cancel
  deriving DecidableEq, Repr

/-- A history for each execution, with what follows it; the entry in front counts. -/
abbrev Script := List (Execution × History × Cue)

namespace Script

/-- What a request for a scripted history leads to. -/
def reading (s : Script) (x : Execution) : Reading :=
  match s.lookup x with
  | none => .refused (.notFound x)
  | some (h, .finish) => .whole h
  | some (h, .breakOff cause _) => .streamed h (.broke cause)
  | some (h, .stall) => .streamed h .stalled
  | some (_, .ignore) => .unanswered
  | some (h, .cancel) => .streamed h .cancelling

/-- Answers each request from the script. -/
def fetch (s : Script) : Source Unit := fun x => pure (s.reading x)

end Script

end HistoryTree
