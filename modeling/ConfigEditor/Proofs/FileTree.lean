import ConfigEditor.FileTree
import ConfigEditor.Proofs.OrderedMap
set_option autoImplicit false

/-!
# File trees: what writing a file changes

A path is followed through directories only, so it leads to the same place in every tree that
keeps the directories (`follow_of_directories`).  Where a file is put at that place, the path
leads to it (`locate_of_write?`, `locate_of_rename?`).

A file where nothing was can block a path that found no directory, but it makes no path writable
(`writable?_insert_file`), so nothing depends on it.
-/

namespace ConfigEditor.FileTree

/-- The place where a location is, and the file there if there is one. -/
def node? : Location → Option (FilePath × Option FileNode)
  | .file place bytes => some (place, some (.file bytes))
  | .vacant place => some (place, none)
  | _ => none

variable {tree after : FileTree}

/-! ## Places -/

/-- What a path leads to stands at the place it leads to. -/
theorem get?_of_follow {here place : FilePath} {names : List Text} {found : Option FileNode}
    (h : node? (tree.follow here names) = some (place, found)) :
    tree.nodes.get? place = found := by
  fun_induction follow tree here names with
  | case1 here => cases h
  | case2 here name rest hstays ih => exact ih h
  | case3 here name rest hstays hup ih => exact ih h
  | case4 here name rest hstays hup hdir ih => exact ih h
  | case5 here name rest hstays hup bytes hfile hlast =>
      cases h
      exact hfile
  | case6 here name rest hstays hup bytes hfile hlast => cases h
  | case7 here name rest hstays hup hnone hlast =>
      cases h
      exact hnone
  | case8 here name rest hstays hup hnone hlast => cases h

theorem get?_of_locate {path : Text} {place : FilePath} {found : Option FileNode}
    (h : node? (tree.locate path) = some (place, found)) : tree.nodes.get? place = found := by
  unfold locate at h
  split at h
  · cases h
  · exact get?_of_follow h

/-- A path leads to the same place in a tree that keeps the directories. -/
theorem follow_of_directories {place : FilePath} {bytes : Bytes} {found : Option FileNode}
    (hdirectories : ∀ path, tree.nodes.get? path = some .directory →
      after.nodes.get? path = some .directory)
    (hplace : after.nodes.get? place = some (.file bytes)) {here : FilePath} {names : List Text}
    (h : node? (tree.follow here names) = some (place, found)) :
    after.follow here names = .file place bytes := by
  fun_induction follow tree here names with
  | case1 here => cases h
  | case2 here name rest hstays ih =>
      rw [follow, if_pos hstays]
      exact ih h
  | case3 here name rest hstays hup ih =>
      rw [follow, if_neg hstays, if_pos hup]
      exact ih h
  | case4 here name rest hstays hup hdir ih =>
      rw [follow, if_neg hstays, if_neg hup, hdirectories _ hdir]
      exact ih h
  | case5 here name rest hstays hup old hfile hlast =>
      cases h
      rw [follow, if_neg hstays, if_neg hup, hplace]
      simp only [hlast, if_true]
  | case6 here name rest hstays hup old hfile hlast => cases h
  | case7 here name rest hstays hup hnone hlast =>
      cases h
      have hempty : rest.isEmpty = true := by
        rw [Bool.and_eq_true] at hlast
        exact hlast.1
      rw [follow, if_neg hstays, if_neg hup, hplace]
      simp only [hempty, if_true]
  | case8 here name rest hstays hup hnone hlast => cases h

/-- A path that can be written to leads to a file or to nothing. -/
theorem exists_node_of_writable? {path : Text} {place : FilePath}
    (h : tree.writable? path = some place) :
    ∃ found, node? (tree.locate path) = some (place, found) ∧ found ≠ some .directory := by
  unfold writable? at h
  split at h
  · rename_i target bytes hlocate
    cases h
    rw [hlocate]
    exact ⟨_, rfl, by simp⟩
  · rename_i target hlocate
    cases h
    rw [hlocate]
    exact ⟨_, rfl, by simp⟩
  · cases h

theorem get?_ne_directory_of_writable? {path : Text} {place : FilePath}
    (h : tree.writable? path = some place) : tree.nodes.get? place ≠ some .directory := by
  obtain ⟨found, hnode, hfound⟩ := exists_node_of_writable? h
  rwa [get?_of_locate hnode]

/-- A path that can be written to leads to the file that is put at its place. -/
theorem locate_of_directories {path : Text} {place : FilePath} {bytes : Bytes}
    (hdirectories : ∀ path, tree.nodes.get? path = some .directory →
      after.nodes.get? path = some .directory)
    (hplace : after.nodes.get? place = some (.file bytes))
    (h : tree.writable? path = some place) : after.locate path = .file place bytes := by
  obtain ⟨found, hnode, _⟩ := exists_node_of_writable? h
  unfold locate at hnode ⊢
  split at hnode
  · cases hnode
  · rename_i hpath
    rw [if_neg hpath]
    exact follow_of_directories hdirectories hplace hnode

/-! ## Operations -/

theorem locate_of_write? {path : Text} {bytes : Bytes}
    (h : tree.write? path bytes = some after) :
    ∃ place, tree.writable? path = some place ∧
      after = ⟨tree.nodes.insert place (.file bytes)⟩ ∧
      after.locate path = .file place bytes := by
  obtain ⟨place, hplace, rfl⟩ := Option.map_eq_some_iff.mp h
  refine ⟨place, hplace, rfl, locate_of_directories ?_ ?_ hplace⟩
  · intro other hother
    have hne : other ≠ place := by
      rintro rfl
      exact get?_ne_directory_of_writable? hplace hother
    rw [OrderedMap.get?_insert, if_neg hne]
    exact hother
  · rw [OrderedMap.get?_insert, if_pos rfl]

theorem locate_of_rename? {source target : Text} {place : FilePath} {bytes : Bytes}
    (hsource : tree.locate source = .file place bytes)
    (h : tree.rename? source target = some after) :
    ∃ goal, after.locate target = .file goal bytes := by
  unfold rename? at h
  rw [hsource] at h
  split at h
  · rename_i found content goal hfound hgoal
    cases hfound
    cases h
    refine ⟨goal, locate_of_directories ?_ ?_ hgoal⟩
    · intro other hother
      have hgoal' : other ≠ goal := by
        rintro rfl
        exact get?_ne_directory_of_writable? hgoal hother
      have hplace : other ≠ place := by
        rintro rfl
        have hfile : tree.nodes.get? other = some (.file bytes) :=
          get?_of_locate (by rw [hsource, node?])
        rw [hfile] at hother
        cases hother
      rw [OrderedMap.get?_insert, if_neg hgoal', OrderedMap.get?_erase, if_neg hplace]
      exact hother
    · rw [OrderedMap.get?_insert, if_pos rfl]
  · cases h

/-! ## A file where nothing was -/

/-- A path that leads nowhere ends in a name of its own. -/
theorem getLast?_ne_of_follow_vacant {here place : FilePath} {names : List Text}
    (h : tree.follow here names = .vacant place) : place.getLast? ≠ some ['.', '.'] := by
  fun_induction follow tree here names with
  | case1 here => cases h
  | case2 here name rest hstays ih => exact ih h
  | case3 here name rest hstays hup ih => exact ih h
  | case4 here name rest hstays hup hdir ih => exact ih h
  | case5 here name rest hstays hup bytes hfile hlast => cases h
  | case6 here name rest hstays hup bytes hfile hlast => cases h
  | case7 here name rest hstays hup hnone hlast =>
      cases h
      rw [Bool.and_eq_true] at hlast
      simpa using hlast.2
  | case8 here name rest hstays hup hnone hlast => cases h

/-- What a new file changes about where a path leads: to the file that was not there, or against
the file where the path found no directory. -/
theorem follow_insert_file {place : FilePath} (hplace : tree.nodes.get? place = none)
    (hname : place.getLast? ≠ some ['.', '.']) (bytes : Bytes) (here : FilePath)
    (names : List Text) :
    follow ⟨tree.nodes.insert place (.file bytes)⟩ here names = tree.follow here names ∨
      (tree.follow here names = .vacant place ∧
        follow ⟨tree.nodes.insert place (.file bytes)⟩ here names = .file place bytes) ∨
      (tree.follow here names = .missing ∧
        follow ⟨tree.nodes.insert place (.file bytes)⟩ here names = .blocked) := by
  have hkept : ∀ path node, tree.nodes.get? path = some node →
      (tree.nodes.insert place (.file bytes)).get? path = some node := by
    intro path node hnode
    have hne : path ≠ place := by
      rintro rfl
      rw [hplace] at hnode
      cases hnode
    rw [OrderedMap.get?_insert, if_neg hne, hnode]
  fun_induction follow tree here names with
  | case1 here => exact .inl rfl
  | case2 here name rest hstays ih =>
      rw [follow, if_pos hstays]
      exact ih
  | case3 here name rest hstays hup ih =>
      rw [follow, if_neg hstays, if_pos hup]
      exact ih
  | case4 here name rest hstays hup hdir ih =>
      rw [follow, if_neg hstays, if_neg hup, hkept _ _ hdir]
      exact ih
  | case5 here name rest hstays hup old hfile hlast =>
      rw [follow, if_neg hstays, if_neg hup, hkept _ _ hfile]
      exact .inl (if_pos hlast)
  | case6 here name rest hstays hup old hfile hlast =>
      rw [follow, if_neg hstays, if_neg hup, hkept _ _ hfile]
      exact .inl (if_neg hlast)
  | case7 here name rest hstays hup hnone hlast =>
      rw [follow, if_neg hstays, if_neg hup, OrderedMap.get?_insert]
      by_cases hhere : here ++ [name] = place
      · rw [Bool.and_eq_true] at hlast
        rw [if_pos hhere, hhere]
        exact .inr (.inl ⟨rfl, if_pos hlast.1⟩)
      · rw [if_neg hhere, hnone]
        exact .inl (if_pos hlast)
  | case8 here name rest hstays hup hnone hlast =>
      rw [follow, if_neg hstays, if_neg hup, OrderedMap.get?_insert]
      by_cases hhere : here ++ [name] = place
      · -- the new file is no directory, and the path goes on: its last name is another one
        have hrest : ¬ rest.isEmpty = true := by
          intro hempty
          rw [← hhere, List.getLast?_concat] at hname
          have hdots : name ≠ ['.', '.'] := fun e => hname (congrArg some e)
          exact hlast (by simp [hempty, hdots])
        rw [if_pos hhere]
        exact .inr (.inr ⟨rfl, if_neg hrest⟩)
      · rw [if_neg hhere, hnone]
        exact .inl (if_neg hlast)

/-- A new file makes no path writable, and leaves every one that was. -/
theorem writable?_insert_file {free : Text} {place : FilePath}
    (hfree : tree.locate free = .vacant place) (bytes : Bytes) (path : Text) :
    writable? ⟨tree.nodes.insert place (.file bytes)⟩ path = tree.writable? path := by
  have hplace : tree.nodes.get? place = none := get?_of_locate (by rw [hfree, node?])
  have hname : place.getLast? ≠ some ['.', '.'] := by
    unfold locate at hfree
    split at hfree
    · cases hfree
    · exact getLast?_ne_of_follow_vacant hfree
  unfold writable? locate
  by_cases hempty : path.isEmpty = true
  · rw [if_pos hempty, if_pos hempty]
  · rw [if_neg hempty, if_neg hempty]
    rcases follow_insert_file hplace hname bytes [] (splitPath path) with
      hsame | ⟨hvacant, hfile⟩ | ⟨hmissing, hblocked⟩
    · rw [hsame]
    · rw [hvacant, hfile]
    · rw [hmissing, hblocked]

/-- The file that a path leads to holds these bytes afterwards, and every other place holds what
it held. -/
def Puts (tree : FileTree) (path : Text) (bytes : Bytes) (after : FileTree) : Prop :=
  ∃ place, tree.writable? path = some place ∧ after.locate path = .file place bytes ∧
    ∀ other, other ≠ place → after.nodes.get? other = tree.nodes.get? other

theorem puts_of_write? {path : Text} {bytes : Bytes} (h : tree.write? path bytes = some after) :
    tree.Puts path bytes after := by
  obtain ⟨place, hplace, rfl, hlocate⟩ := locate_of_write? h
  refine ⟨place, hplace, hlocate, ?_⟩
  intro other hother
  rw [OrderedMap.get?_insert, if_neg hother]

/-! ## A file that is there for a time -/

section Temporary

variable {free path : Text} {bytes : Bytes} {written : FileTree}

/-- A new file where nothing was. -/
theorem exists_vacant_of_write? (h : tree.exists? free ≠ some true)
    (hwrite : tree.write? free bytes = some written) :
    ∃ place, tree.locate free = .vacant place ∧ tree.nodes.get? place = none ∧
      written = ⟨tree.nodes.insert place (.file bytes)⟩ ∧
      written.locate free = .file place bytes := by
  obtain ⟨place, hplace, rfl, hlocate⟩ := locate_of_write? hwrite
  have hvacant : tree.locate free = .vacant place := by
    unfold exists? at h
    unfold writable? at hplace
    split at hplace
    · rename_i hfile
      rw [hfile] at h
      exact absurd rfl h
    · rename_i hvacant
      cases hplace
      exact hvacant
    · cases hplace
  exact ⟨place, hvacant, get?_of_locate (by rw [hvacant, node?]), rfl, hlocate⟩

/-- To remove a new file leaves the tree that was. -/
theorem remove?_of_write? (h : tree.exists? free ≠ some true)
    (hwrite : tree.write? free bytes = some written) : written.remove? free = some tree := by
  obtain ⟨place, _, hnone, rfl, hlocate⟩ := exists_vacant_of_write? h hwrite
  unfold remove?
  rw [hlocate]
  dsimp only
  rw [OrderedMap.erase_insert hnone]

/-- To move a new file to a path has the effect of writing it there. -/
theorem rename?_of_write? (h : tree.exists? free ≠ some true)
    (hwrite : tree.write? free bytes = some written) :
    written.rename? free path = tree.write? path bytes := by
  obtain ⟨place, hvacant, hnone, rfl, hlocate⟩ := exists_vacant_of_write? h hwrite
  unfold rename? write?
  rw [hlocate, writable?_insert_file hvacant]
  cases tree.writable? path with
  | none => rfl
  | some goal =>
      dsimp only [Option.map_some]
      rw [OrderedMap.erase_insert hnone]

end Temporary

end ConfigEditor.FileTree
