import ConfigEditor.Action
import ConfigEditor.Document.Edit
import ConfigEditor.Settings
set_option autoImplicit false

/-!
# Commands

The commands of the program.  Each names its section as a command line does
(`SectionId.resolve`), works on one file, and reports success with a mark.  Commands
that only read need the file; those that change an option or a section start from an
empty document if it is missing.

A document is edited in memory and saved last, in one step, so a command that fails
before leaves the files as they were.
-/

namespace ConfigEditor

/-- A command and its arguments. -/
inductive Command where
  /-- Prints the values of a key. -/
  | get (name key : Text)
  /-- Sets a key, replacing all of its values. -/
  | set (name key value : Text)
  /-- Appends a value to a key. -/
  | add (name key value : Text)
  /-- Removes a key, or the values that match a pattern. -/
  | unset (name key : Text) (pattern : Option Text)
  /-- Adds an empty section. -/
  | addSection (name : Text)
  /-- Removes a section and all of its keys. -/
  | removeSection (name : Text)
  /-- Lists every value. -/
  | list
  /-- Gives the file its canonical layout. -/
  | format
  deriving DecidableEq, Repr, Inhabited

namespace Command

open ConfigEditor.Action ConfigEditor.Procedure

/-- Prints values one per line, or as one list. -/
def printValues (outputFormat : OutputFormat) (values : List Text) : Action Unit :=
  match outputFormat with
  | .json => print (Json.render (.list (values.map .text)))
  | .pretty => printAll values

/-- A listing entry as a structured value. -/
def entryJson (entry : DottedEntry) : Json :=
  .fields [("name".toList, .text entry.name), ("value".toList, .text entry.value)]

/-- A listing entry on one line. -/
def entryLine (entry : DottedEntry) : Text := entry.name ++ '=' :: entry.value

/-- Prints a listing one entry per line, or as one list. -/
def printEntries (outputFormat : OutputFormat) (entries : List DottedEntry) : Action Unit :=
  match outputFormat with
  | .json => print (Json.render (.list (entries.map entryJson)))
  | .pretty => printAll (entries.map entryLine)

/-- Prints the values of a key. -/
def runGet (machine : Machine) (file : Text) (outputFormat : OutputFormat) (name key : Text) :
    Action Unit := do
  let id ← ofRefusal (SectionId.resolve name)
  let doc ← loadConfig machine file Encoding.defaultLabel false
  let values ← ofResult (doc.getAll id.identity key)
  printValues outputFormat values
  tell machine .debug (Text.decimal values.length ++ " value(s) for ".toList ++ key) none

/-- Opens a section, then assigns a value in it. -/
def assign (write : Text → Text → Text → Edit Unit) (id : SectionId) (key value : Text) :
    Edit Unit := do
  Edit.openSection id
  write id.identity key value

/-- Sets a key. -/
def runSet (machine : Machine) (file name key value : Text) : Action Unit := do
  let id ← ofRefusal (SectionId.resolve name)
  modifyConfig machine file (assign Edit.set id key value)
  tell machine .success ("Set ".toList ++ key ++ " in [".toList ++ name ++ [']']) none

/-- Appends a value to a key. -/
def runAdd (machine : Machine) (file name key value : Text) : Action Unit := do
  let id ← ofRefusal (SectionId.resolve name)
  modifyConfig machine file (assign Edit.add id key value)
  tell machine .success ("Added ".toList ++ key ++ " to [".toList ++ name ++ [']']) none

/-- Removes a key or its matching values; fails if nothing was removed. -/
def removal (engine : PatternEngine) (id : SectionId) (key : Text) (pattern : Option Text) :
    Edit Unit := do
  let removed ←
    match pattern with
    | none => Edit.removeOption id.identity key
    | some source => Edit.removeMatching id.identity key (.ofSource engine source)
  if removed then pure () else throw (.noOption id.identity key)

/-- Removes a key, or the values of it that match a pattern. -/
def runUnset (machine : Machine) (file name key : Text) (pattern : Option Text) :
    Action Unit := do
  let id ← ofRefusal (SectionId.resolve name)
  modifyConfig machine file (removal machine.engine id key pattern)
  tell machine .success ("Removed ".toList ++ key ++ " from [".toList ++ name ++ [']']) none

/-- Adds an empty section. -/
def runAddSection (machine : Machine) (file name : Text) : Action Unit := do
  let id ← ofRefusal (SectionId.resolve name)
  let created ← modifyConfig machine file (Edit.addSection id.identity)
  if created then
    tell machine .success ("Added section [".toList ++ id.identity ++ [']']) none
  else
    tell machine .info ("Section [".toList ++ id.identity ++ "] already exists".toList) none

/-- Removes a section that has to be there. -/
def sectionRemoval (id : SectionId) : Edit Unit := do
  let removed ← Edit.removeSection id.identity
  if removed then pure () else throw (.noSection id.identity)

/-- Removes a section and all of its keys. -/
def runRemoveSection (machine : Machine) (file name : Text) : Action Unit := do
  let id ← ofRefusal (SectionId.resolve name)
  modifyConfig machine file (sectionRemoval id)
  tell machine .success ("Removed section [".toList ++ id.identity ++ [']']) none

/-- Lists every value. -/
def runList (machine : Machine) (file : Text) (outputFormat : OutputFormat) : Action Unit := do
  let doc ← loadConfig machine file Encoding.defaultLabel false
  printEntries outputFormat doc.toEntries

/-- Gives a file its canonical layout. -/
def runFormat (machine : Machine) (file : Text) : Action Unit := do
  let doc ← loadConfig machine file Encoding.defaultLabel false
  saveConfig machine file doc
  tell machine .success ("Formatted ".toList ++ file) none

/-- Runs a command on a file. -/
def run (machine : Machine) (file : Text) (outputFormat : OutputFormat) :
    Command → Action Unit
  | get name key => runGet machine file outputFormat name key
  | set name key value => runSet machine file name key value
  | add name key value => runAdd machine file name key value
  | unset name key pattern => runUnset machine file name key pattern
  | addSection name => runAddSection machine file name
  | removeSection name => runRemoveSection machine file name
  | list => runList machine file outputFormat
  | format => runFormat machine file

end Command

end ConfigEditor
