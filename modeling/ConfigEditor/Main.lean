import ConfigEditor.CommandLine
import Std.Time.DateTime.Timestamp
set_option autoImplicit false

/-!
# The program

The outer layer of the command line program.  It reads the variables, the time and the
one file that the command line works on, runs the command on a file tree that holds
just that file, writes the file back in one step if it changed, and prints what the
run left on the console.
-/

namespace ConfigEditor.Program

/-- A variable of the environment, as a text. -/
def readVariable (name : String) : IO (Option Text) := do
  return (← IO.getEnv name).map String.toList

/-- The variables that the program looks at. -/
def readEnvironment : IO Environment := do
  let threshold ← readVariable "GITINI_LOG_LEVEL"
  let format ← readVariable "GITINI_LOG_FORMAT"
  let file ← readVariable "GITINI_FILE"
  let debug ← readVariable "GITINI_DEBUG"
  let noColor ← readVariable "NO_COLOR"
  return ⟨threshold, format, file, debug, noColor⟩

/-- The surroundings of this run. -/
def readSurroundings : IO Surroundings := do
  let environment ← readEnvironment
  let terminal ← (← IO.getStderr).isTty
  let now ← Std.Time.Timestamp.now
  let tag ← IO.monoNanosNow
  return ⟨environment, terminal, now.toMillisecondsSinceUnixEpoch.val, Text.decimal tag,
    Platform.reliable, Pattern.engine⟩

/-- What is at a path of the file system.  A file that cannot be read is taken for a directory,
which cannot be read either. -/
def nodeAt (path : String) : IO (Option FileNode) := do
  let place := (← IO.currentDir) / path
  if ← place.isDir then return some .directory
  if !(← place.pathExists) then return none
  try
    let bytes ← IO.FS.readBinFile place
    return some (.file bytes.toList)
  catch _ => return some .directory

/-- The directory part of a path. -/
def parent (path : Text) : Text :=
  match (path.reverse.dropWhile (· != '/')).reverse with
  | [] => ['.']
  | directory => directory

/-- A file tree with what is at a path, or else with its directory. -/
def snapshot (path : Text) : IO FileTree := do
  match ← nodeAt (String.ofList path) with
  | some node => return FileTree.empty.place path node
  | none =>
    match ← nodeAt (String.ofList (parent path)) with
    | some node => return FileTree.empty.place (parent path) node
    | none => return .empty

/-- Writes a file in one step. -/
def store (path tag : Text) (bytes : Bytes) : IO Unit := do
  let temporary := String.ofList (FileTree.temporaryPath path tag)
  IO.FS.writeBinFile temporary (ByteArray.mk bytes.toArray)
  try IO.FS.rename temporary (String.ofList path)
  catch e =>
    IO.FS.removeFile temporary
    throw e

/-- Runs a command line on the file it works on and answers the exit status. -/
def runOn (around : Surroundings) (words : List Text) (path : Text) : IO Nat := do
  let before ← snapshot path
  let (status, world) := CommandLine.run around words ⟨before, .empty⟩
  match before.contents? path, world.files.contents? path with
  | some old, some new => if old != new then store path around.tag new
  | none, some new => store path around.tag new
  | _, _ => pure ()
  (← IO.getStdout).putStr (String.ofList world.console.out)
  (← IO.getStderr).putStr (String.ofList world.console.err)
  return status

/-- Runs a command line and answers the exit status. -/
def run (words : List Text) : IO Nat := do
  let around ← readSurroundings
  match CommandLine.target? around words with
  | none => return CommandLine.generalStatus
  | some path =>
    try runOn around words path
    catch e =>
      IO.eprintln (toString e)
      return ErrorCode.fileWriteFailed.toNat

end ConfigEditor.Program

def main (words : List String) : IO UInt32 := do
  let status ← ConfigEditor.Program.run (words.map String.toList)
  return UInt32.ofNat status
