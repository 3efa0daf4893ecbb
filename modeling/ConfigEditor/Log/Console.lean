import ConfigEditor.Log.Record
set_option autoImplicit false

/-!
# Log: the console

The console holds what was written to the two output streams so far.  Results are
printed as they are; log records are written if the threshold admits their severity,
in the chosen format, one line each.
-/

namespace ConfigEditor

/-- What was written to standard output and to standard error. -/
structure Console where
  out : Text
  err : Text
  deriving DecidableEq, Repr, Inhabited

/-- How log records are written. -/
structure LogSettings where
  threshold : Threshold
  format : OutputFormat
  color : Bool
  /-- The time of every record. -/
  now : Int
  deriving DecidableEq, Repr, Inhabited

namespace Console

/-- Nothing written. -/
def empty : Console := ⟨[], []⟩

/-- Prints a line of results. -/
def print (c : Console) (text : Text) : Console := { c with out := c.out ++ text ++ ['\n'] }

/-- Writes a line to the error stream. -/
def printError (c : Console) (text : Text) : Console := { c with err := c.err ++ text ++ ['\n'] }

/-- Writes a record, if it is admitted. -/
def write (settings : LogSettings) (c : Console) (r : LogRecord) : Console :=
  if settings.threshold.admits r.severity then
    let line := r.format settings.format settings.color
    if r.toErrorStream then c.printError line else c.print line
  else c

end Console

/-- What a program tells its user. -/
inductive Notice where
  | success
  | fail
  /-- A result, which no threshold holds back. -/
  | output
  | debug
  | info
  | warn
  | error
  deriving DecidableEq, Repr, Inhabited

namespace Notice

/-- The severity of a notice; a report of success or failure is information. -/
def severity : Notice → Severity
  | success => .info
  | fail => .info
  | output => .info
  | debug => .debug
  | info => .info
  | warn => .warning
  | error => .error

/-- The mark of a notice. -/
def mark? : Notice → Option Mark
  | success => some .success
  | fail => some .fail
  | _ => none

/-- The annotations of a notice about a file. -/
def annotations (notice : Notice) (path : Option Text) : OrderedMap Text Json :=
  let base : OrderedMap Text Json :=
    match path with
    | some p => OrderedMap.empty.insert LogRecord.pathKey (.text p)
    | none => .empty
  match notice.mark? with
  | some mark => base.insert LogRecord.styleKey (.text mark.word)
  | none => base

/-- Gives a notice to the console. -/
def give (settings : LogSettings) (notice : Notice) (message : Text) (path : Option Text)
    (c : Console) : Console :=
  match notice with
  | output => c.print message
  | _ =>
    c.write settings
      { severity := notice.severity
        message := message
        annotations := notice.annotations path
        cause := none
        time := settings.now }

end Notice

end ConfigEditor
