import ConfigEditor.Text.Blank
set_option autoImplicit false

/-!
# Log: severities, thresholds and colors

A log line has a severity.  What is shown is decided by a threshold, which a user
chooses among four severities.  On a terminal the label of a line is colored by its
severity.
-/

namespace ConfigEditor

/-- How grave a log line is, from `all` (below every line) to `off` (above every line). -/
inductive Severity where
  | all
  | trace
  | debug
  | info
  | warning
  | error
  | fatal
  | off
  deriving DecidableEq, Repr, Inhabited

namespace Severity

/-- Position in the order. -/
def rank : Severity → Nat
  | all => 0
  | trace => 1
  | debug => 2
  | info => 3
  | warning => 4
  | error => 5
  | fatal => 6
  | off => 7

/-- The name of a severity. -/
def tag : Severity → Text
  | all => "All".toList
  | trace => "Trace".toList
  | debug => "Debug".toList
  | info => "Info".toList
  | warning => "Warning".toList
  | error => "Error".toList
  | fatal => "Fatal".toList
  | off => "None".toList

/-- How a severity is shown at the start of a line. -/
def label : Severity → Text
  | all => "ALL".toList
  | trace => "TRACE".toList
  | debug => "DEBUG".toList
  | info => "INFO".toList
  | warning => "WARN".toList
  | error => "ERROR".toList
  | fatal => "FATAL".toList
  | off => "OFF".toList

/-- The label filled up with spaces to five characters. -/
def paddedLabel (s : Severity) : Text :=
  s.label ++ List.replicate (5 - s.label.length) ' '

end Severity

/-- The least severity that is shown. -/
inductive Threshold where
  | debug
  | info
  | warn
  | error
  deriving DecidableEq, Repr, Inhabited

namespace Threshold

/-- The severity that a threshold stands for. -/
def severity : Threshold → Severity
  | debug => .debug
  | info => .info
  | warn => .warning
  | error => .error

/-- A line of a given severity is shown. -/
def admits (t : Threshold) (s : Severity) : Bool := t.severity.rank ≤ s.rank

/-- The word that a user writes. -/
def word : Threshold → Text
  | debug => "debug".toList
  | info => "info".toList
  | warn => "warn".toList
  | error => "error".toList

/-- All thresholds, in the order in which they are offered. -/
def choices : List Threshold := [debug, info, warn, error]

/-- The threshold with a given word. -/
def ofWord? (text : Text) : Option Threshold := choices.find? fun t => t.word == text

end Threshold

/-- How lines and results are written: for a reader, or as one structured value per line. -/
inductive OutputFormat where
  | pretty
  | json
  deriving DecidableEq, Repr, Inhabited

namespace OutputFormat

/-- The word that a user writes. -/
def word : OutputFormat → Text
  | pretty => "pretty".toList
  | json => "json".toList

/-- All formats, in the order in which they are offered. -/
def choices : List OutputFormat := [pretty, json]

/-- The format with a given word. -/
def ofWord? (text : Text) : Option OutputFormat := choices.find? fun f => f.word == text

end OutputFormat

/-- Colors of a terminal. -/
inductive Color where
  | red
  | green
  | yellow
  | blue
  | cyan
  | gray
  | white
  deriving DecidableEq, Repr, Inhabited

namespace Color

/-- The number that selects a color. -/
def selector : Color → Text
  | red => "31".toList
  | green => "32".toList
  | yellow => "33".toList
  | blue => "34".toList
  | cyan => "36".toList
  | gray => "90".toList
  | white => "37".toList

/-- A text in a color, if colors are on. -/
def paint (color : Color) (text : Text) (on : Bool) : Text :=
  if on then
    '\x1b' :: '[' :: (color.selector ++ 'm' :: (text ++ ['\x1b', '[', '0', 'm']))
  else text

/-- The color of a label. -/
def ofSeverity : Severity → Color
  | .debug => gray
  | .info => blue
  | .warning => yellow
  | .error => red
  | _ => white

end Color

end ConfigEditor
