import ConfigEditor.Fault
import ConfigEditor.FileTree
set_option autoImplicit false

/-!
# Platforms

A platform carries out operations on files.  Each of them takes its full effect, the
one that the file tree gives it, or it fails without effect, and the platform tells
why.  An operation that is not possible in the tree fails; any other may fail as well,
whenever the platform likes.

`replace` writes a file in one step: a temporary file beside the target is written
first and then takes the target's place.  If that fails, the temporary file is removed
again, if the platform lets it.
-/

namespace ConfigEditor

/-- The operations of a platform.  One that succeeds has the effect that the file tree gives it. -/
structure Platform where
  stat : FileTree → Text → Except Text Bool
  read : FileTree → Text → Except Text Bytes
  write : FileTree → Text → Bytes → Except Text FileTree
  rename : FileTree → Text → Text → Except Text FileTree
  remove : FileTree → Text → Except Text FileTree
  exists?_of_stat : ∀ {tree path there}, stat tree path = .ok there →
    tree.exists? path = some there
  contents?_of_read : ∀ {tree path bytes}, read tree path = .ok bytes →
    tree.contents? path = some bytes
  write?_of_write : ∀ {tree path bytes after}, write tree path bytes = .ok after →
    tree.write? path bytes = some after
  rename?_of_rename : ∀ {tree source target after}, rename tree source target = .ok after →
    tree.rename? source target = some after
  remove?_of_remove : ∀ {tree path after}, remove tree path = .ok after →
    tree.remove? path = some after

namespace Platform

/-- What is possible, or the reason why it fails. -/
def orCause {α : Type} (cause : Text) : Option α → Except Text α
  | some value => .ok value
  | none => .error cause

theorem eq_some_of_orCause {α : Type} {cause : Text} {possible : Option α} {value : α}
    (h : orCause cause possible = .ok value) : possible = some value := by
  cases possible with
  | none => cases h
  | some found => exact congrArg some (Except.ok.inj h)

/-- The reason of a platform on which everything possible is done. -/
def impossible : Text := "not possible at this path".toList

/-- A platform on which everything possible is done. -/
def reliable : Platform where
  stat tree path := orCause impossible (tree.exists? path)
  read tree path := orCause impossible (tree.contents? path)
  write tree path bytes := orCause impossible (tree.write? path bytes)
  rename tree source target := orCause impossible (tree.rename? source target)
  remove tree path := orCause impossible (tree.remove? path)
  exists?_of_stat := eq_some_of_orCause
  contents?_of_read := eq_some_of_orCause
  write?_of_write := eq_some_of_orCause
  rename?_of_rename := eq_some_of_orCause
  remove?_of_remove := eq_some_of_orCause

/-! ## Access to files -/

/-- Something is at a path. -/
def fileExists (platform : Platform) (tree : FileTree) (path : Text) : Except FileFailure Bool :=
  (platform.stat tree path).mapError (.stat path)

/-- The bytes of a file. -/
def readBytes (platform : Platform) (tree : FileTree) (path : Text) : Except FileFailure Bytes :=
  (platform.read tree path).mapError (.read path)

/-- Writes a file, over the old one if there is one. -/
def writeBytes (platform : Platform) (tree : FileTree) (path : Text) (bytes : Bytes) :
    Except FileFailure FileTree :=
  (platform.write tree path bytes).mapError (.write path)

/-- The tree after an attempt to remove a file.  Whether it failed is not told. -/
def discard (platform : Platform) (tree : FileTree) (path : Text) : FileTree :=
  match platform.remove tree path with
  | .ok after => after
  | .error _ => tree

/-- Writes a file in one step, and answers the tree afterwards. -/
def replace (platform : Platform) (tree : FileTree) (tag path : Text) (bytes : Bytes) :
    Except FileFailure Unit × FileTree :=
  let temporary := FileTree.temporaryPath path tag
  match platform.writeBytes tree temporary bytes with
  | .error failure => (.error failure, tree)
  | .ok written =>
    match platform.rename written temporary path with
    | .ok moved => (.ok (), moved)
    | .error cause => (.error (.replace path cause), platform.discard written temporary)

end Platform

end ConfigEditor
