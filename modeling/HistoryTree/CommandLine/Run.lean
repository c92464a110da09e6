import HistoryTree.CommandLine.Report
import HistoryTree.CommandLine.Request
import HistoryTree.Expansion
import HistoryTree.Source.Directory
import HistoryTree.Source.Service

/-!
# Answering a command line

What is printed and with which code the program ends, given a way to read files and to ask
services, and the texts that are printed as help.
-/

namespace HistoryTree.CommandLine

/-- How the program ends. -/
structure Exit where
  code : UInt32
  output : String
  /-- What is reported beside the output. -/
  complaint : String
  deriving DecidableEq, Repr

/-- A way to reach what lies outside. -/
structure Access (m : Type → Type) where
  fileAt : String → m FileRead
  ask : Service → Execution → m Reading
  /-- The text that is printed as help. -/
  help : Topic → String

variable {m : Type → Type} [Monad m]

/-- The limits that the settings of a command ask for; no seconds stand for no time limit. -/
def limitsOf (timeoutSeconds maxDepth : Nat) : Limits :=
  { timeout := if timeoutSeconds = 0 then none else some (1000 * timeoutSeconds)
    maxDepth }

/-- The way to ask for histories at an origin, a directory before a URL. -/
def Origin.reader? (access : Access m) (o : Origin) : Option (Execution → m Reading) :=
  match o.directory, o.url with
  | some root, _ => some (Directory.fetch access.fileAt root)
  | none, some url => some (access.ask ⟨url, none⟩)
  | none, none => none

/-- Projects an execution from what the readings yield. -/
def projectFrom (ask : Execution → m Reading) (limits : Limits) (x : Execution) :
    m (Except Halt TaskGroup) :=
  ExceptT.run <| Expansion.project .standard limits
    (fun y => ExceptT.mk do return limits.await y (← ask y).drain) x

/-- What a projection that ended without a result is reported as. -/
def haltMessage : Halt → String
  | .failed e => e.message
  | .waiting x => "the history of " ++ x.text ++ " does not end"

/-- Answers a request. -/
def Request.answer (access : Access m) (r : Request) : m Exit :=
  match r.command with
  | .listTypes =>
    return ⟨0, unlines (Registry.standard.eventTypes.map (·.name.toList)), ""⟩
  | .showTree x json timeoutSeconds maxDepth =>
    match r.origin.reader? access with
    | none => return ⟨1, "", "one of --dir or --url is required"⟩
    | some ask => do
      match ← projectFrom ask (limitsOf timeoutSeconds maxDepth) x with
      | .error h => return ⟨1, "", haltMessage h⟩
      | .ok g => return ⟨0, if json then reportJson g else report g, ""⟩

/-- Answers a command line. -/
def run (access : Access m) (args : List String) : m Exit :=
  match Request.parse args with
  | .error (.misuse e) => return ⟨2, "", e.message⟩
  | .error (.help topic) => return ⟨0, access.help topic, ""⟩
  | .ok r => r.answer access

end HistoryTree.CommandLine
