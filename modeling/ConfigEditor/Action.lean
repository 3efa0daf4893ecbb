import ConfigEditor.Document.Edit
import ConfigEditor.Log.Console
import ConfigEditor.Platform
set_option autoImplicit false

/-!
# Actions on files

An action is a procedure that changes files, writes to the console, and ends with a
result or a fault; what was written before a fault stays written.  A `Machine` holds
what an action may not change: how log lines are written, the tag of temporary files,
the platform that has the files, and the engine for patterns.

`loadConfig` reads a document from a file, `saveConfig` writes one to it in one step.
Both tell in the log what they did and which file it was.
-/

namespace ConfigEditor

/-- Files and console. -/
structure World where
  files : FileTree
  console : Console
  deriving DecidableEq, Repr, Inhabited

/-- What an action runs on. -/
structure Machine where
  log : LogSettings
  /-- Tag of temporary files. -/
  tag : Text
  platform : Platform
  engine : PatternEngine

/-- A change of the world that ends with a result or a fault. -/
abbrev Action := Procedure World

namespace Action

open ConfigEditor.Procedure

/-- A question to the files. -/
def askFiles {α : Type} (question : FileTree → Except FileFailure α) : Action α :=
  ask fun world => (question world.files).mapError .fileAccess

/-- Gives a notice to the console. -/
def tell (machine : Machine) (notice : Notice) (message : Text) (path : Option Text) :
    Action Unit :=
  modify fun world => { world with console := notice.give machine.log message path world.console }

/-- Prints a line of results. -/
def print (text : Text) : Action Unit :=
  modify fun world => { world with console := world.console.print text }

/-- Prints several lines of results. -/
def printAll : List Text → Action Unit
  | [] => pure ()
  | text :: rest => do
    print text
    printAll rest

/-- Writes a file in one step. -/
def replace (machine : Machine) (path : Text) (bytes : Bytes) : Action Unit := do
  let world ← get
  let (result, files) := machine.platform.replace world.files machine.tag path bytes
  set { world with files := files }
  ofResult (result.mapError .fileAccess)

/-! ## Documents in files -/

/-- "`count` section(s)", between what was done and the file it was done to. -/
def countMessage (done between : Text) (doc : Document) (path : Text) : Text :=
  done ++ Text.decimal doc.sections.size ++ between ++ path

/-- Reads the document in a file.  A missing file is the empty document if `missingOk` says so,
and a fault otherwise. -/
def loadConfig (machine : Machine) (path label : Text) (missingOk : Bool) : Action Document := do
  let present ← askFiles fun files => machine.platform.fileExists files path
  if present then
    let bytes ← askFiles fun files => machine.platform.readBytes files path
    let doc ← ofResult (Document.ofSource (.bytes bytes) label)
    tell machine .debug (countMessage "Loaded ".toList " section(s) from ".toList doc path)
      (some path)
    pure doc
  else if missingOk then
    tell machine .debug ("No config at ".toList ++ path ++ ", starting empty".toList) (some path)
    pure .empty
  else throw (.configNotFound path)

/-- Writes a document to a file. -/
def saveConfig (machine : Machine) (path : Text) (doc : Document) : Action Unit := do
  replace machine path doc.toBytes
  tell machine .debug (countMessage "Wrote ".toList " section(s) to ".toList doc path) (some path)

/-- Loads the document in a file, edits it in memory, and saves it.  A missing file starts empty.
What an edit that fails has made of the document is never saved. -/
def modifyConfig {α : Type} (machine : Machine) (path : Text) (edit : Edit α) : Action α := do
  let doc ← loadConfig machine path Encoding.defaultLabel true
  let (answer, edited) := edit.perform doc
  let value ← ofResult answer
  saveConfig machine path edited
  pure value

end Action

end ConfigEditor
