import ConfigEditor.Command
set_option autoImplicit false

/-!
# Command lines

A command line is a command, its options and its arguments, in this order.  The
command is the first word that names one; words before it count for nothing.  Options
are read until the first word that is no option still to be given or lacks its value,
each option at most once; what follows are arguments, and so is everything after a
double hyphen.  Names of options are taken in any case.  A command line that does not
have the arguments its command needs, or has more, is a usage error.

The options that are read here are those with an effect on a command; the level of the
log can be set in the environment.  Whichever way a command and its options were read,
`execute` resolves the settings, performs the command, shows the fault that stopped it,
and ends with an exit status: zero on success, the code of the fault otherwise, and one
for a usage error or a bad environment.
-/

namespace ConfigEditor

namespace CommandLine

/-- The version of the program. -/
def version : Text := "0.1.0".toList

/-! ## Options -/

/-- The options that can be given. -/
inductive Switch where
  | verbose
  | format
  | file
  deriving DecidableEq, Repr, Inhabited

/-- The option takes the next word as its value. -/
def Switch.takesValue : Switch → Bool
  | verbose => false
  | format => true
  | file => true

/-- The spellings of an option. -/
def Switch.spellings : Switch → List Text
  | verbose => ["--verbose".toList, "-v".toList]
  | format => ["--format".toList]
  | file => ["--file".toList, "-f".toList]

/-- A word split at its first equals sign, if it is a long option with a value of one line
behind one.  White space around the word is no part of it. -/
def splitAssignment (word : Text) : Option (Text × Text) :=
  match word.trim with
  | '-' :: '-' :: c :: rest =>
    let name := rest.takeWhile (· != '=')
    match rest.dropWhile (· != '=') with
    | _ :: v :: value =>
      if c == '=' || (v :: value).any Text.isLineEnd then none
      else some ('-' :: '-' :: c :: name, v :: value)
    | _ => none
  | _ => none

/-- The words with a leading assignment split in two. -/
def expand : List Text → List Text
  | [] => []
  | word :: rest =>
    match splitAssignment word with
    | some (name, value) => name :: value :: rest
    | none => word :: rest

/-- The option that a word names, among those that are left. -/
def named? (left : List Switch) (word : Text) : Option Switch :=
  left.find? fun s => s.spellings.contains (word.map Char.toLower)

/-- The words that mean yes after an option without a value. -/
def yesWords : List Text :=
  ["true".toList, "1".toList, "y".toList, "yes".toList, "on".toList]

/-- The words that mean no after an option without a value. -/
def noWords : List Text :=
  ["false".toList, "0".toList, "n".toList, "no".toList, "off".toList]

/-- Whether words after `--verbose` start with an answer, and the words after it. -/
def verboseAnswer : List Text → Bool × List Text
  | [] => (true, [])
  | word :: rest =>
    if yesWords.contains word then (true, rest)
    else if noWords.contains word then (false, rest)
    else (true, word :: rest)

/-- Takes one option with its value; nothing if there is none or it is no choice. -/
def take (options : GlobalOptions) (rest : List Text) :
    Switch → Option (GlobalOptions × List Text)
  | .verbose =>
    let (on, after) := verboseAnswer rest
    some ({ options with verbose := on }, after)
  | .format =>
    match rest with
    | [] => none
    | word :: after =>
      (OutputFormat.ofWord? word).map fun f => ({ options with format := some f }, after)
  | .file =>
    match rest with
    | [] => none
    | word :: after => some ({ options with file := some word }, after)

/-- Reads options from the front of a row of words; `left` are those not given yet.  Answers the
options and the other words.  Every option is given at most once, so `rounds` can be the number
of options. -/
def readOptions (options : GlobalOptions) :
    (rounds : Nat) → (left : List Switch) → List Text → Option (GlobalOptions × List Text)
  | 0, _, words => some (options, words)
  | rounds + 1, left, words =>
    match expand words with
    | [] => some (options, [])
    | word :: rest =>
      match named? left word with
      | none => some (options, words)
      | some s =>
        if s.takesValue && rest.isEmpty then some (options, words)
        else
          match take options rest s with
          | none => none
          | some (more, after) => readOptions more rounds (left.filter (· != s)) after

/-! ## Commands -/

/-- The words that name commands. -/
def commandWords : List Text :=
  ["get".toList, "set".toList, "add".toList, "unset".toList, "add-section".toList,
    "remove-section".toList, "list".toList, "format".toList]

/-- The command with a given word and given arguments. -/
def command? (word : Text) (arguments : List Text) : Option Command :=
  if word == "get".toList then
    match arguments with
    | [name, key] => some (.get name key)
    | _ => none
  else if word == "set".toList then
    match arguments with
    | [name, key, value] => some (.set name key value)
    | _ => none
  else if word == "add".toList then
    match arguments with
    | [name, key, value] => some (.add name key value)
    | _ => none
  else if word == "unset".toList then
    match arguments with
    | [name, key] => some (.unset name key none)
    | [name, key, pattern] => some (.unset name key (some pattern))
    | _ => none
  else if word == "add-section".toList then
    match arguments with
    | [name] => some (.addSection name)
    | _ => none
  else if word == "remove-section".toList then
    match arguments with
    | [name] => some (.removeSection name)
    | _ => none
  else if word == "list".toList then
    match arguments with
    | [] => some .list
    | _ => none
  else if word == "format".toList then
    match arguments with
    | [] => some .format
    | _ => none
  else none

/-- The options and the command of a command line; nothing on a usage error. -/
def parse (words : List Text) : Option (GlobalOptions × Command) :=
  match words.dropWhile fun w => !commandWords.contains w with
  | [] => none
  | word :: rest =>
    let free := rest.takeWhile (· != ['-', '-'])
    let forced := (rest.dropWhile (· != ['-', '-'])).drop 1
    match readOptions {} 3 [.verbose, .format, .file] free with
    | none => none
    | some (options, arguments) =>
      (command? word (arguments ++ forced)).map fun command => (options, command)

end CommandLine

/-! ## Runs -/

/-- The surroundings of a run: variables, whether there is a terminal, the time, the tag of
temporary files, the platform, and the engine for patterns. -/
structure Surroundings where
  environment : Environment
  terminal : Bool
  now : Int
  tag : Text
  platform : Platform
  engine : PatternEngine

namespace CommandLine

/-- The largest exit status. -/
def greatestStatus : Nat := 125

/-- The exit status of a usage error and of a bad environment. -/
def generalStatus : Nat := ErrorCode.generalError.toNat

/-- Shows the fault that stopped a run: on the error stream for a reader, on standard output as
a structured value. -/
def showFault (context : Context) (fault : Fault) (world : World) : World :=
  match context.format with
  | .json =>
    let line := Json.render
      (.fields [("error".toList, .text fault.message), ("code".toList, .text fault.code.name)])
    { world with console := world.console.print line }
  | .pretty =>
    let line := Mark.fail.sign context.color ++ ' ' :: fault.message
    { world with console := world.console.printError line }

/-- The machine of a run. -/
def machineOf (surroundings : Surroundings) (context : Context) : Machine where
  log :=
    { threshold := context.threshold
      format := context.format
      color := context.color
      now := surroundings.now }
  tag := surroundings.tag
  platform := surroundings.platform
  engine := surroundings.engine

/-- Performs a command with its settings resolved. -/
def perform (surroundings : Surroundings) (context : Context) (command : Command)
    (world : World) : Nat × World :=
  let action := command.run (machineOf surroundings context) context.file context.format
  match action.perform world with
  | (.ok (), after) => (ErrorCode.success.toNat, after)
  | (.error fault, after) => (min fault.code.toNat greatestStatus, showFault context fault after)

/-- The exit status of a command with its options, and the world after it.  In a bad environment the
command is not performed. -/
def execute (surroundings : Surroundings) (options : GlobalOptions) (command : Command)
    (world : World) : Nat × World :=
  match surroundings.environment.resolve options surroundings.terminal with
  | .error _ => (generalStatus, world)
  | .ok context => perform surroundings context command world

/-- The exit status of a command line and the world after it. -/
def run (surroundings : Surroundings) (words : List Text) (world : World) : Nat × World :=
  match parse words with
  | none => (generalStatus, world)
  | some (options, command) => execute surroundings options command world

/-- The file that a command line works on; nothing on a usage error and in a bad environment. -/
def target? (surroundings : Surroundings) (words : List Text) : Option Text :=
  match parse words with
  | none => none
  | some (options, _) =>
    (surroundings.environment.resolve options surroundings.terminal).toOption.map (·.file)

end CommandLine

end ConfigEditor
