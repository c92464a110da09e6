import HistoryTree.Execution
import HistoryTree.Text.Decimal

/-!
# What a command line asks for

A command line has settings and a command with settings and operands of its own.  Where the
histories come from may be set in front of the command or behind it; what is set behind it
counts more.

Words are read in order, up to one that asks for help.  What stands in front of that word must be
in order, but nothing needs to be complete.
-/

namespace HistoryTree.CommandLine

/-- What can be set on a command line. -/
inductive Setting where
  | directory | url | json | timeout | depth
  /-- Help is asked for. -/
  | help
  deriving DecidableEq, Repr

namespace Setting

/-- The name of a setting behind two dashes. -/
def long : Setting → String
  | directory => "dir"
  | url => "url"
  | json => "json"
  | timeout => "timeout-secs"
  | depth => "max-depth"
  | help => "help"

/-- The letter of a setting behind one dash, if it has one. -/
def letter? : Setting → Option Char
  | directory => some 'd'
  | url => some 'u'
  | help => some 'h'
  | json | timeout | depth => none

/-- Whether a setting has a value. -/
def hasValue : Setting → Bool
  | json | help => false
  | directory | url | timeout | depth => true

end Setting

/-- Why a command line cannot be understood. -/
inductive UsageError where
  | unknownSetting (word : String)
  | missingValue (s : Setting)
  | needlessValue (s : Setting)
  | invalidValue (s : Setting) (value : String)
  | repeated (s : Setting)
  /-- A directory and a URL exclude each other. -/
  | twoSources
  | missingCommand
  | unknownCommand (word : String)
  | missingExecution
  | invalidExecution (word : String)
  | needlessWord (word : String)
  deriving DecidableEq, Repr

/-- The text that reports a misused command line. -/
def UsageError.message : UsageError → String
  | unknownSetting word => "unexpected argument '" ++ word ++ "' found"
  | missingValue s => "a value is required for '--" ++ s.long ++ "' but none was supplied"
  | needlessValue s => "unexpected value for '--" ++ s.long ++ "' found; no more were expected"
  | invalidValue s value => "invalid value '" ++ value ++ "' for '--" ++ s.long ++ "'"
  | repeated s => "the argument '--" ++ s.long ++ "' cannot be used multiple times"
  | twoSources => "the argument '--dir' cannot be used with '--url'"
  | missingCommand => "a subcommand is required but one was not provided"
  | unknownCommand word => "unrecognized subcommand '" ++ word ++ "'"
  | missingExecution => "the required argument '<EXECUTION>' was not provided"
  | invalidExecution word => "invalid value '" ++ word ++ "' for '<EXECUTION>'"
  | needlessWord word => "unexpected argument '" ++ word ++ "' found"

/-- What help is printed for. -/
inductive Topic where
  | program
  /-- The command that prints a tree. -/
  | showTree
  /-- The command that prints event types. -/
  | listTypes
  /-- The command that prints help. -/
  | help
  deriving DecidableEq, Repr

/-- Why a command line is not carried out. -/
inductive Stop where
  | misuse (e : UsageError)
  | help (t : Topic)
  deriving DecidableEq, Repr

instance : MonadLift (Except UsageError) (Except Stop) := ⟨Except.mapError .misuse⟩

/-! ## Words -/

/-- Where the reading of words ends. -/
inductive Ending where
  | done
  /-- A command, with the words behind it. -/
  | command (name : String) (words : List String)
  | help
  deriving DecidableEq, Repr

/-- The words of a command line up to the command, or all of them where none is looked for. -/
structure Words where
  settings : List (Setting × String)
  operands : List String
  ending : Ending
  /-- The setting right in front of the command, if its value is a word of its own.  It is looked at
  only after the words behind the command. -/
  late : Option (Setting × String)
  deriving DecidableEq, Repr

/-- No words, in front of an ending. -/
def Words.endingIn (ending : Ending) : Words := ⟨[], [], ending, none⟩

/-- The words with one more setting in front. -/
def Words.set (s : Setting) (value : String) (w : Words) : Words :=
  { w with settings := (s, value) :: w.settings }

/-- The words with one more setting in front, whose value is a word of its own. -/
def Words.setApart (s : Setting) (value : String) (w : Words) : Words :=
  match w with
  | ⟨[], [], .command name words, none⟩ => ⟨[], [], .command name words, some (s, value)⟩
  | w => w.set s value

/-- The words with nothing left to look at later. -/
def Words.all (w : Words) : Words :=
  { w with settings := w.settings ++ w.late.toList, late := none }

/-- What a word looks like. -/
inductive Shape where
  /-- Two dashes, behind which all words are operands. -/
  | separator
  /-- A name behind two dashes, perhaps with a value behind an equals sign. -/
  | long (name : List Char) (value : Option (List Char))
  /-- A letter behind one dash, perhaps with a value behind it. -/
  | letter (c : Char) (value : Option (List Char))
  | plain

/-- What a word looks like; a single dash is a word like others. -/
def shape (word : String) : Shape :=
  match word.toList with
  | ['-', '-'] => .separator
  | '-' :: '-' :: rest =>
    match rest.dropWhile (· ≠ '=') with
    | _ :: value => .long (rest.takeWhile (· ≠ '=')) (some value)
    | [] => .long rest none
  | ['-', c] => .letter c none
  | '-' :: c :: '=' :: value => .letter c (some value)
  | '-' :: c :: value => .letter c (some value)
  | _ => .plain

/-- Whether a word can be the value of the setting before it. -/
def isValue (word : String) : Bool :=
  match shape word with
  | .plain => true
  | .separator | .long .. | .letter .. => false

/-- Sorts the words of a command line, where some settings are known and some commands are looked
for. -/
def sortWords (known : List Setting) (commands : List String) :
    List String → Except UsageError Words
  | [] => .ok (.endingIn .done)
  | word :: rest =>
    let given (s? : Option Setting) (value : Option (List Char)) : Except UsageError Words :=
      match s?, value, rest with
      | none, _, _ => .error (.unknownSetting word)
      | some .help, none, _ => .ok (.endingIn .help)
      | some s, some value, rest =>
        if s.hasValue then
          (sortWords known commands rest).map (·.set s (String.ofList value))
        else .error (.needlessValue s)
      | some s, none, next :: rest' =>
        if s.hasValue then
          if isValue next then (sortWords known commands rest').map (·.setApart s next)
          else .error (.missingValue s)
        else (sortWords known commands (next :: rest')).map (·.set s "")
      | some s, none, [] =>
        if s.hasValue then .error (.missingValue s) else .ok ((Words.endingIn .done).set s "")
    match shape word with
    | .separator => .ok { Words.endingIn .done with operands := rest }
    | .long name value => given (known.find? (·.long.toList = name)) value
    | .letter c value =>
      match known.find? (·.letter? = some c) with
      -- behind the letter that asks for help, no other is read
      | some .help => given (some .help) none
      | s? => given s? value
    | .plain =>
      if commands.contains word then .ok (.endingIn (.command word rest))
      else
        (sortWords known commands rest).map fun w => { w with operands := word :: w.operands }

/-- The value of a setting, which may be given once. -/
def Words.value? (w : Words) (s : Setting) : Except UsageError (Option String) :=
  match w.settings.filter (·.1 = s) with
  | [] => .ok none
  | [(_, value)] => .ok (some value)
  | _ :: _ :: _ => .error (.repeated s)

/-- Nothing is looked for behind words that ask for help. -/
def Words.heed (w : Words) (t : Topic) : Except Stop Unit :=
  if w.ending = .help then .error (.help t) else .ok ()

/-! ## Requests -/

/-- Where histories come from. -/
structure Origin where
  directory : Option String
  url : Option String
  deriving DecidableEq, Repr

/-- What is to be done. -/
inductive Command where
  /-- Print the tree of an execution, as lines or as a document. -/
  | showTree (x : Execution) (json : Bool) (timeoutSeconds maxDepth : Nat)
  /-- Print the types of the events that are tracked. -/
  | listTypes
  deriving DecidableEq, Repr

/-- What a command line asks for. -/
structure Request where
  origin : Origin
  command : Command
  deriving DecidableEq, Repr

/-- Where the settings at one place say that histories come from. -/
def Words.origin (w : Words) : Except UsageError Origin := do
  let directory ← w.value? .directory
  let url ← w.value? .url
  if directory = some "" then throw (.invalidValue .directory "")
  return ⟨directory, url⟩

/-- At one place, a directory and a URL exclude each other. -/
def Origin.checked (o : Origin) : Except UsageError Origin :=
  if o.directory.isSome && o.url.isSome then .error .twoSources else .ok o

/-- A number below `2 ^ 64`, perhaps behind a plus sign. -/
def natural? (s : String) : Option Nat :=
  let digits := match s.toList with
    | '+' :: rest => rest
    | cs => cs
  if digits.isEmpty || !digits.all Text.isDigit || UInt64.size ≤ Text.valueOf digits then none
  else some (Text.valueOf digits)

/-- The number that a setting gives, or its usual value. -/
def Words.number (w : Words) (s : Setting) (usual : Nat) : Except UsageError Nat := do
  match ← w.value? s with
  | none => return usual
  | some value =>
    match natural? value with
    | some n => return n
    | none => throw (.invalidValue s value)

/-- The execution that the operands name, if there are any. -/
def Words.execution? (w : Words) : Except UsageError (Option Execution) :=
  match w.operands with
  | [] => .ok none
  | [word] =>
    match Execution.parse? word with
    | some x => .ok (some x)
    | none => .error (.invalidExecution word)
  | _ :: word :: _ => .error (.needlessWord word)

/-- The settings that say where histories come from. -/
def originSettings : List Setting := [.directory, .url]

/-- What the words of the command that prints a tree ask for. -/
def readShowTree (words : List String) : Except Stop (Origin × Command) := do
  let w ← sortWords (.help :: originSettings ++ [.json, .timeout, .depth]) [] words
  let origin ← w.origin
  let x? ← w.execution?
  let json ← w.value? .json
  let timeout ← w.number .timeout 30
  let depth ← w.number .depth 16
  w.heed .showTree
  let origin ← origin.checked
  match x? with
  | none => throw (.misuse .missingExecution)
  | some x => return (origin, .showTree x json.isSome timeout depth)

/-- What the words of the command that prints event types ask for. -/
def readListTypes (words : List String) : Except Stop (Origin × Command) := do
  let w ← sortWords (.help :: originSettings) [] words
  if let word :: _ := w.operands then throw (.misuse (.needlessWord word))
  let origin ← w.origin
  w.heed .listTypes
  return (← origin.checked, .listTypes)

/-- The commands, each with the name that it is called by. -/
def topics : List (String × Topic) :=
  [("show", .showTree), ("event-types", .listTypes), ("help", .help)]

/-- The command that prints help reads the names of commands, one in the other; no command has
others in it. -/
def readHelp : List String → Stop
  | [] => .help .program
  | word :: rest =>
    match topics.lookup word, rest with
    | none, _ => .misuse (.unknownCommand word)
    | some topic, [] => .help topic
    | some _, next :: _ => .misuse (.unknownCommand next)

/-- What the words of a command ask for. -/
def readCommand (name : String) (words : List String) : Except Stop (Origin × Command) :=
  match topics.lookup name with
  | some .showTree => readShowTree words
  | some .listTypes => readListTypes words
  | some .help => .error (readHelp words)
  | _ => .error (.misuse (.unknownCommand name))

/-- What a command line asks for. -/
def Request.parse (args : List String) : Except Stop Request := do
  let w ← sortWords (.help :: originSettings) (topics.map (·.1)) args
  if let word :: _ := w.operands then throw (.misuse (.unknownCommand word))
  let _ ← w.origin
  match w.ending with
  | .help => throw (.help .program)
  | .done => throw (.misuse .missingCommand)
  | .command name words =>
    let (inner, c) ← readCommand name words
    let outer ← (← w.all.origin).checked
    return ⟨⟨inner.directory.or outer.directory, inner.url.or outer.url⟩, c⟩

end HistoryTree.CommandLine
