import ConfigEditor.Json
import ConfigEditor.Log.Level
import ConfigEditor.Log.Timestamp
import ConfigEditor.OrderedMap
set_option autoImplicit false

/-!
# Log: records

A record is what one log line says: a severity, a message, annotations, a cause, and
the time.  The annotation `logStyle` says that the line reports success or failure; it
is shown as a mark in front of the message and never as a field.  The annotation
`path` names the file at hand.

`pretty` writes a record for a reader, `json` as a structured value.  As fields, the
annotations follow the time, the level and the message; one with the name of such a
field takes its place.
-/

namespace ConfigEditor

/-- A report of success or of failure. -/
inductive Mark where
  | success
  | fail
  deriving DecidableEq, Repr, Inhabited

namespace Mark

/-- The value of the style annotation. -/
def word : Mark → Text
  | success => "success".toList
  | fail => "fail".toList

/-- The sign in front of the message. -/
def sign (mark : Mark) (color : Bool) : Text :=
  match mark with
  | success => Color.green.paint ['✓'] color
  | fail => Color.red.paint ['✗'] color

end Mark

/-- What one log line says. -/
structure LogRecord where
  severity : Severity
  message : Text
  annotations : OrderedMap Text Json
  /-- Message of a failure that the line reports. -/
  cause : Option Text
  /-- Milliseconds since the first moment of 1970. -/
  time : Int
  deriving Repr, Inhabited

namespace LogRecord

/-- Name of the annotation that marks success and failure. -/
def styleKey : Text := "logStyle".toList

/-- Name of the annotation that holds the file at hand. -/
def pathKey : Text := "path".toList

/-- The text under an annotation. -/
def textAnnotation (r : LogRecord) (key : Text) : Option Text :=
  (r.annotations.get? key).bind Json.text?

/-- The mark that the style annotation asks for. -/
def mark? (r : LogRecord) : Option Mark :=
  match r.textAnnotation styleKey with
  | some word =>
    if word == Mark.success.word then some .success
    else if word == Mark.fail.word then some .fail
    else none
  | none => none

/-- The file at hand in brackets, and a space. -/
def pathPart (r : LogRecord) (color : Bool) : Text :=
  match r.textAnnotation pathKey with
  | some path => Color.cyan.paint ('[' :: (path ++ [']'])) color ++ [' ']
  | none => []

/-- What is said of a failure without a message. -/
def namelessFailure : Text := "An error has occurred".toList

/-- The failure that the line reports, on a line of its own. -/
def causePart (r : LogRecord) : Text :=
  match r.cause with
  | some message =>
    '\n' :: ("Error: ".toList ++ if message.isEmpty then namelessFailure else message)
  | none => []

/-- The record for a reader.  A marked record shows its mark and its message only. -/
def pretty (r : LogRecord) (color : Bool) : Text :=
  match r.mark? with
  | some mark => mark.sign color ++ ' ' :: r.message
  | none =>
    (Color.ofSeverity r.severity).paint r.severity.paddedLabel color ++
      ' ' :: (r.pathPart color ++ r.message ++ r.causePart)

/-- The fields that every record has. -/
def baseFields (r : LogRecord) : OrderedMap Text Json :=
  ((OrderedMap.empty.insert "timestamp".toList (.text (Timestamp.text r.time))).insert
    "level".toList (.text (r.severity.label.map Char.toLower))).insert
    "message".toList (.text r.message)

/-- The fields of a record. -/
def fields (r : LogRecord) : OrderedMap Text Json :=
  r.annotations.pairs.foldl
    (fun m (key, value) => if key == styleKey then m else m.insert key value) r.baseFields

/-- The record as a structured value. -/
def json (r : LogRecord) : Text := (Json.fields r.fields.pairs).render

/-- The record in a given format. -/
def format (r : LogRecord) (format : OutputFormat) (color : Bool) : Text :=
  match format with
  | .pretty => r.pretty color
  | .json => r.json

/-- Errors and marks of failure go to the error stream. -/
def toErrorStream (r : LogRecord) : Bool :=
  r.severity == .error || r.mark? == some .fail

end LogRecord

end ConfigEditor
