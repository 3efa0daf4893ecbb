import ConfigEditor.Document.Query
import ConfigEditor.Document.Stream
import ConfigEditor.Line
import ConfigEditor.Pattern
import ConfigEditor.Procedure
set_option autoImplicit false

/-!
# Documents: edits

An edit works on a document in place.  It asks the document and checks its arguments in
turn, and any of these may end it with a fault; the document is then whatever the steps
before have made of it.  Where several arguments are bad, the section is reported first,
then the key, then the value; a removal by pattern reports the section before the
pattern.

An edit changes a key or a section where it stands.  Only what is new comes last, and
only what is removed goes.  A value is accepted if it reads back unchanged once it is
written (`checkValue`).

The functions of the same names on documents (`Document.set` and so on) answer what an
edit answers, with the document that it makes if it succeeds.
-/

namespace ConfigEditor

/-- Accepts a value that is one line, does not end in an odd run of backslashes and is clean
already. -/
def Line.checkValue (value : Text) : Except Refusal Text :=
  if value.any fun c => c == '\r' || c == '\n' then .error (.lineBreak value)
  else if Line.continues value then .error (.danglingBackslash value)
  else if Line.cleanValue value != value then .error (.unstable value)
  else .ok value

/-- A pattern as a caller gives it: written, with what an engine makes of it, or compiled
before. -/
inductive PatternArgument where
  | written (source : Text) (reading : Except Text Matcher)
  | compiled (matcher : Matcher)

namespace PatternArgument

/-- A written pattern, handed to an engine. -/
def ofSource (engine : PatternEngine) (source : Text) : PatternArgument :=
  .written source (engine source)

/-- What to search for. -/
def compile : PatternArgument → Except Fault Matcher
  | compiled matcher => .ok matcher
  | written _ (.ok matcher) => .ok matcher
  | written source (.error cause) => .error (.invalidPattern source cause)

end PatternArgument

/-- Work on a document in place. -/
abbrev Edit := Procedure Document

namespace Document

/-- The options of a section replaced, under the spelling by which it was found. -/
def withOptions (doc : Document) (name : Text) (s : Section)
    (options : OrderedMap Text Stored) : Document :=
  doc.putSection (SectionId.canonical name) { s with options := options }

/-- The section, the normal key and the value of an assignment, each checked in turn. -/
def checkAssignment (doc : Document) (name key value : Text) :
    Except Fault (Section × Text × Text) :=
  match doc.findSection name with
  | .error fault => .error fault
  | .ok s =>
    match Key.parse key with
    | .error refusal => .error (.refused refusal)
    | .ok normal =>
      match Line.checkValue value with
      | .error refusal => .error (.refused refusal)
      | .ok text => .ok (s, normal, text)

/-- Removes a section; tells whether it was there. -/
def removeSection (doc : Document) (name : Text) : Bool × Document :=
  (doc.hasSection name, ⟨doc.sections.erase (SectionId.canonical name)⟩)

end Document

namespace Edit

open ConfigEditor.Procedure

/-- The options of a section replaced, under the spelling by which it was found. -/
def putOptions (name : Text) (s : Section) (options : OrderedMap Text Stored) : Edit Unit :=
  modify fun doc => doc.withOptions name s options

/-! ## Sections -/

/-- Appends an empty section, unless its identity is known. -/
def openSection (id : SectionId) : Edit Unit := modify fun doc => doc.openSection id

/-- Adds an empty section; tells whether it was missing. -/
def addSection (name : Text) : Edit Bool := do
  let id ← ofRefusal (SectionId.ofHeader name)
  let doc ← get
  openSection id
  pure !doc.sections.contains id.identity

/-- Removes a section; tells whether it was there. -/
def removeSection (name : Text) : Edit Bool := modifyGet fun doc => doc.removeSection name

/-! ## Options -/

/-- Replaces all occurrences of a key by one value. -/
def set (name key value : Text) : Edit Unit := do
  let (s, normal, text) ← ask fun doc => doc.checkAssignment name key value
  putOptions name s (s.options.insert normal (.one (.assigned text)))

/-- Adds one value after the occurrences of a key. -/
def add (name key value : Text) : Edit Unit := do
  let (s, normal, text) ← ask fun doc => doc.checkAssignment name key value
  putOptions name s (s.record normal (.assigned text)).options

/-- Removes a key with all its occurrences; tells whether there were any. -/
def removeOption (name key : Text) : Edit Bool := do
  let s ← ask fun doc => doc.findSection name
  putOptions name s (s.options.erase (Key.normalize key))
  pure (s.options.contains (Key.normalize key))

/-- Puts back what is left of the occurrences of a key.  A key without occurrences left is
removed. -/
def putRemaining (name key : Text) (s : Section) : Option Stored → Edit Unit
  | none => putOptions name s (s.options.erase key)
  | some rest => putOptions name s (s.options.insert key rest)

/-- Removes the occurrences of a key whose texts contain a match; tells whether there were
any. -/
def removeMatching (name key : Text) (pattern : PatternArgument) : Edit Bool := do
  let s ← ask fun doc => doc.findSection name
  let found ← ofResult pattern.compile
  match s.options.get? (Key.normalize key) with
  | none => pure false
  | some value =>
    let remaining := value.retain fun entry => !found entry.text
    if (remaining.elim 0 fun rest => rest.entries.length) = value.entries.length then
      pure false
    else
      putRemaining name (Key.normalize key) s remaining
      pure true

/-! ## Other documents -/

/-- Folds a source document into the one at hand. -/
def merge (source : Document) : Edit Unit := modify fun doc => doc.merge source

/-- Reads a source into the document at hand, as if its text followed that of the document. -/
def read (source : Source) (label : Text) : Edit Unit := do
  let parsed ← ofResult (Document.ofSource source label)
  merge parsed

end Edit

namespace Document

/-! ## What edits answer -/

/-- Adds an empty section; tells whether it was missing. -/
def addSection (doc : Document) (name : Text) : Except Fault (Bool × Document) :=
  (Edit.addSection name).result doc

/-- Replaces all occurrences of a key by one value. -/
def set (doc : Document) (name key value : Text) : Except Fault Document :=
  ((Edit.set name key value).result doc).map Prod.snd

/-- Adds one value after the occurrences of a key. -/
def add (doc : Document) (name key value : Text) : Except Fault Document :=
  ((Edit.add name key value).result doc).map Prod.snd

/-- Removes a key with all its occurrences; tells whether there were any. -/
def removeOption (doc : Document) (name key : Text) : Except Fault (Bool × Document) :=
  (Edit.removeOption name key).result doc

/-- Removes the occurrences of a key whose texts contain a match; tells whether there were
any. -/
def removeMatching (doc : Document) (name key : Text) (pattern : PatternArgument) :
    Except Fault (Bool × Document) :=
  (Edit.removeMatching name key pattern).result doc

/-- Reads a source into a document, as if its text followed that of the document. -/
def read (doc : Document) (source : Source) (label : Text) : Except Fault Document :=
  ((Edit.read source label).result doc).map Prod.snd

end Document

end ConfigEditor
