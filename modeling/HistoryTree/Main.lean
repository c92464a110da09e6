import HistoryTree.CommandLine.Run

/-!
# The program

Reads the command line, answers it from the files of the system, and prints the answer.  No
way to reach a service is built in.
-/

namespace HistoryTree.CommandLine

/-- Reads a file of the system. -/
def readSystemFile (path : String) : IO FileRead := do
  try
    let bytes ← IO.FS.readBinFile path
    return .document (Symbols.ofBytes bytes.toList)
  catch
    | .noFileOrDirectory .. => return .missing
    | .inappropriateType _ 21 _ => return .failed .isDirectory
    | .inappropriateType .. => return .failed .notADirectory
    | .invalidArgument .. => return .failed .nameTooLong
    | e => throw e

/-- The text that the system prints as help, in lines. -/
def systemHelp : Topic → List String
  | .program =>
    ["Project workflow execution histories into task trees", "",
      "Usage: tasktree [OPTIONS] <COMMAND>", "",
      "Commands:",
      "  show         Print the task tree of an execution run",
      "  event-types  List the event types the projector handles",
      "  help         Print this message or the help of the given subcommand(s)"]
  | .showTree =>
    ["Print the task tree of an execution run", "",
      "Usage: tasktree show [OPTIONS] <EXECUTION>"]
  | .listTypes =>
    ["List the event types the projector handles", "",
      "Usage: tasktree event-types [OPTIONS]"]
  | .help =>
    ["Print this message or the help of the given subcommand(s)", "",
      "Usage: tasktree help [COMMAND]..."]

/-- Files are those of the system, and services are out of reach. -/
def systemAccess : Access IO where
  fileAt := readSystemFile
  ask s x := return (s.fetch x ⟨none, []⟩).1
  help topic := unlines ((systemHelp topic).map (·.toList))

end HistoryTree.CommandLine

open HistoryTree.CommandLine in
/-- Answers the command line. -/
def main (args : List String) : IO UInt32 := do
  let exit ← run systemAccess args
  IO.print exit.output
  unless exit.complaint.isEmpty do IO.eprintln ("Error: " ++ exit.complaint)
  return exit.code
