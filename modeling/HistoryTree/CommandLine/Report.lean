import HistoryTree.Task.Codec

/-!
# Task trees as text

The report of a tree has a head of three lines and one line for each task, indented by its
depth: its status code between brackets, its name and its id.
-/

namespace HistoryTree.CommandLine

/-- The code of a status, filled up to two characters. -/
def statusField (s : TaskStatus) : List Char :=
  s.shortCode.toList ++ List.replicate (2 - s.shortCode.length) ' '

/-- The line of a task at a depth. -/
def taskLine (depth : Nat) (t : Task) : List Char :=
  List.replicate (2 * (depth + 1)) ' ' ++ '[' :: statusField t.status ++ [']', ' ']
    ++ t.name.toList ++ [' ', '(', '#'] ++ t.id.text.toList ++ [')']

/-- The lines in front of those of the tasks. -/
def headLines (g : TaskGroup) : List (List Char) :=
  ["Execution: ".toList ++ g.execution.text.toList,
    "Status:    ".toList ++ g.status.text.toList,
    "Tasks (".toList ++ Text.decimal g.totalTasks ++ [')', ':']]

/-- The lines of a report. -/
def reportLines (g : TaskGroup) : List (List Char) :=
  headLines g ++ g.walk.map fun (depth, t) => taskLine depth t

/-- Lines as a text, each with a line end. -/
def unlines (lines : List (List Char)) : String := String.ofList (lines.flatMap (· ++ ['\n']))

/-- The report of a tree. -/
def report (g : TaskGroup) : String := unlines (reportLines g)

/-- The tree as a document on lines of its own. -/
def reportJson (g : TaskGroup) : String := g.toValue.prettyText ++ "\n"

end HistoryTree.CommandLine
