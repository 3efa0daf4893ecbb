import ConfigEditor.Platform
import ConfigEditor.Proofs.FileTree
set_option autoImplicit false

/-!
# Platforms: what writing a file in one step leaves

Whatever fails on the platform, a file that is written in one step is there afterwards, with the
bytes that were written (`contents?_of_replace`).  Where the temporary path is not in use, there are
three ends (`replaced`): the file is put and nothing else is changed; nothing at all is changed; or
the temporary file is left, and only that, for it could neither be moved nor be removed.
-/

namespace ConfigEditor.Platform

variable {platform : Platform} {tree after : FileTree} {tag path : Text} {bytes : Bytes}

/-- A file that is written in one step is found where it was written to. -/
theorem locate_of_replace (h : platform.replace tree tag path bytes = (.ok (), after)) :
    ∃ place, after.locate path = .file place bytes := by
  unfold replace writeBytes at h
  dsimp only at h
  cases hwrite : platform.write tree (FileTree.temporaryPath path tag) bytes with
  | error cause =>
      rw [hwrite] at h
      cases h
  | ok written =>
      rw [hwrite] at h
      dsimp only [Except.mapError] at h
      split at h
      · rename_i moved hmoved
        cases h
        obtain ⟨place, _, _, hlocate⟩ :=
          FileTree.locate_of_write? (platform.write?_of_write hwrite)
        exact FileTree.locate_of_rename? hlocate (platform.rename?_of_rename hmoved)
      · cases h

theorem exists?_of_replace (h : platform.replace tree tag path bytes = (.ok (), after)) :
    after.exists? path = some true := by
  obtain ⟨place, hlocate⟩ := locate_of_replace h
  unfold FileTree.exists?
  rw [hlocate]

theorem contents?_of_replace (h : platform.replace tree tag path bytes = (.ok (), after)) :
    after.contents? path = some bytes := by
  obtain ⟨place, hlocate⟩ := locate_of_replace h
  unfold FileTree.contents?
  rw [hlocate]

/-- One of the accesses fails by which a file is loaded and then replaced by these bytes. -/
inductive Fails (platform : Platform) (tree : FileTree) (tag path : Text) (bytes : Bytes) : Prop
  | stat {cause : Text} (h : platform.stat tree path = .error cause)
  | read {cause : Text} (hthere : tree.exists? path = some true)
      (h : platform.read tree path = .error cause)
  | write {cause : Text}
      (h : platform.write tree (FileTree.temporaryPath path tag) bytes = .error cause)
  | rename {cause : Text} {written : FileTree}
      (hwrite : platform.write tree (FileTree.temporaryPath path tag) bytes = .ok written)
      (h : platform.rename written (FileTree.temporaryPath path tag) path = .error cause)

/-- What can come of writing a file in one step. -/
inductive Replaced (platform : Platform) (tree : FileTree) (tag path : Text) (bytes : Bytes) :
    Except FileFailure Unit → FileTree → Prop
  | put {after : FileTree} (h : tree.Puts path bytes after) :
      Replaced platform tree tag path bytes (.ok ()) after
  | kept {failure : FileFailure} (h : platform.Fails tree tag path bytes) :
      Replaced platform tree tag path bytes (.error failure) tree
  /-- The temporary file can neither be moved nor be removed. -/
  | left {after : FileTree} {moving removing : Text}
      (hputs : tree.Puts (FileTree.temporaryPath path tag) bytes after)
      (hmove : platform.rename after (FileTree.temporaryPath path tag) path = .error moving)
      (hremove : platform.remove after (FileTree.temporaryPath path tag) = .error removing) :
      Replaced platform tree tag path bytes (.error (.replace path moving)) after

/-- Beside a temporary file that is new, a file is put, or the tree is kept, or the temporary file
is left. -/
theorem replaced (h : tree.exists? (FileTree.temporaryPath path tag) ≠ some true)
    (bytes : Bytes) :
    platform.Replaced tree tag path bytes (platform.replace tree tag path bytes).1
      (platform.replace tree tag path bytes).2 := by
  unfold replace writeBytes
  dsimp only
  cases hwrite : platform.write tree (FileTree.temporaryPath path tag) bytes with
  | error cause => exact .kept (.write hwrite)
  | ok written =>
      have hwritten := platform.write?_of_write hwrite
      dsimp only [Except.mapError]
      cases hmove : platform.rename written (FileTree.temporaryPath path tag) path with
      | ok moved =>
          have hmoved := platform.rename?_of_rename hmove
          rw [FileTree.rename?_of_write? h hwritten] at hmoved
          exact .put (FileTree.puts_of_write? hmoved)
      | error moving =>
          dsimp only [discard]
          cases hremove : platform.remove written (FileTree.temporaryPath path tag) with
          | ok removed =>
              have hremoved := platform.remove?_of_remove hremove
              rw [FileTree.remove?_of_write? h hwritten] at hremoved
              obtain rfl := Option.some.inj hremoved
              exact .kept (.rename hwrite hmove)
          | error removing => exact .left (FileTree.puts_of_write? hwritten) hmove hremove

end ConfigEditor.Platform
