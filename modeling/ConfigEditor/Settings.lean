import ConfigEditor.Log.Level
set_option autoImplicit false

/-!
# Settings

A setting comes from the command line, else from the environment, else from a default
(`Settings.choose`).  The environment is a handful of variables, of which three have
to hold one of a few words.  Two functions read it:

* `Environment.read` reads all variables, fills in the defaults, and reports every bad
  variable;
* `Environment.resolve` joins them with the options of a command line, and reports
  the first bad variable.
-/

namespace ConfigEditor

/-- The variables of the environment that are set. -/
structure Environment where
  threshold : Option Text
  format : Option Text
  file : Option Text
  debug : Option Text
  noColor : Option Text
  deriving DecidableEq, Repr, Inhabited

/-- A variable that holds no word it may hold, with the text it holds. -/
inductive BadVariable where
  | threshold (received : Text)
  | format (received : Text)
  | debug (received : Text)
  deriving DecidableEq, Repr, Inhabited

namespace BadVariable

/-- What is wrong with such a variable. -/
def kind : Text := "InvalidData".toList

/-- The parts of the name of a variable. -/
def path : BadVariable → List Text
  | threshold _ => ["GITINI".toList, "LOG_LEVEL".toList]
  | format _ => ["GITINI".toList, "LOG_FORMAT".toList]
  | debug _ => ["GITINI".toList, "DEBUG".toList]

/-- Words with a comma and a space between each and the next. -/
def listed : List Text → Text
  | [] => []
  | [w] => w
  | w :: rest => w ++ ',' :: ' ' :: listed rest

/-- The words for a variable that holds none of some choices. -/
def expectedOneOf (choices : List Text) (received : Text) : Text :=
  "Expected one of (".toList ++ listed choices ++ ") but received \"".toList ++
    received ++ ['"']

/-- The words for a bad variable. -/
def message : BadVariable → Text
  | threshold received => expectedOneOf (Threshold.choices.map Threshold.word) received
  | format received => expectedOneOf (OutputFormat.choices.map OutputFormat.word) received
  | debug received => "Expected a boolean value but received \"".toList ++ received ++ ['"']

end BadVariable

namespace Settings

/-- The first source that has a value: the command line, the environment, the default. -/
def choose {α : Type} (cli env : Option α) (fallback : α) : α := (cli.or env).getD fallback

/-- The words for true. -/
def trueWords : List Text := ["true".toList, "yes".toList, "on".toList, "1".toList]

/-- The words for false. -/
def falseWords : List Text := ["false".toList, "no".toList, "off".toList, "0".toList]

/-- The truth value of a word. -/
def bool? (word : Text) : Option Bool :=
  if trueWords.contains word then some true
  else if falseWords.contains word then some false
  else none

def defaultThreshold : Threshold := .info

def defaultFormat : OutputFormat := .pretty

/-- The file that is meant where none is named: that of the repository at hand. -/
def defaultFile : Text := ".git/config".toList

end Settings

/-- All settings of the environment, defaults filled in. -/
structure EnvironmentSettings where
  threshold : Threshold
  format : OutputFormat
  file : Text
  debug : Bool
  color : Bool
  deriving DecidableEq, Repr, Inhabited

/-- The options that every command takes. -/
structure GlobalOptions where
  verbose : Bool := false
  threshold : Option Threshold := none
  format : Option OutputFormat := none
  file : Option Text := none
  deriving DecidableEq, Repr, Inhabited

/-- What a command runs with. -/
structure Context where
  file : Text
  format : OutputFormat
  threshold : Threshold
  color : Bool
  deriving DecidableEq, Repr, Inhabited

namespace Environment

/-- The environment without variables. -/
def empty : Environment := ⟨none, none, none, none, none⟩

/-- A variable read by words; an absent one is no error. -/
def readWord {α : Type} (held : Option Text) (ofWord? : Text → Option α)
    (bad : Text → BadVariable) : Except BadVariable (Option α) :=
  match held with
  | none => .ok none
  | some word =>
    match ofWord? word with
    | some value => .ok (some value)
    | none => .error (bad word)

def readThreshold (env : Environment) : Except BadVariable (Option Threshold) :=
  readWord env.threshold Threshold.ofWord? .threshold

def readFormat (env : Environment) : Except BadVariable (Option OutputFormat) :=
  readWord env.format OutputFormat.ofWord? .format

/-- Debugging is off unless asked for. -/
def readDebug (env : Environment) : Except BadVariable Bool :=
  (readWord env.debug Settings.bool? .debug).map (·.getD false)

/-- Colors are on unless the variable against them holds a text that is not empty. -/
def color (env : Environment) : Bool :=
  match env.noColor with
  | none => true
  | some text => text.isEmpty

/-- The fault of a result, as a list. -/
def faultOf {α : Type} : Except BadVariable α → List BadVariable
  | .ok _ => []
  | .error bad => [bad]

/-- All settings of the environment, or every bad variable. -/
def read (env : Environment) : Except (List BadVariable) EnvironmentSettings :=
  match env.readThreshold, env.readFormat, env.readDebug with
  | .ok threshold, .ok format, .ok debug =>
    .ok
      { threshold := threshold.getD Settings.defaultThreshold
        format := format.getD Settings.defaultFormat
        file := env.file.getD Settings.defaultFile
        debug := debug
        color := env.color }
  | threshold, format, debug =>
    .error (faultOf threshold ++ faultOf format ++ faultOf debug)

/-- What a command runs with: options over variables over defaults, or the first bad variable.
A verbose command and an environment for debugging show everything.  Colors are used on a
terminal only. -/
def resolve (env : Environment) (options : GlobalOptions) (terminal : Bool) :
    Except BadVariable Context :=
  match env.readThreshold with
  | .error bad => .error bad
  | .ok threshold =>
    match env.readFormat with
    | .error bad => .error bad
    | .ok format =>
      match env.readDebug with
      | .error bad => .error bad
      | .ok debug =>
        .ok
          { file := Settings.choose options.file env.file Settings.defaultFile
            format := Settings.choose options.format format Settings.defaultFormat
            threshold :=
              if options.verbose || debug then .debug
              else Settings.choose options.threshold threshold Settings.defaultThreshold
            color := env.color && terminal }

end Environment

end ConfigEditor
