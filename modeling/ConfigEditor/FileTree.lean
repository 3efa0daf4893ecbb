import ConfigEditor.Encoding.Utf8
import ConfigEditor.OrderedMap
set_option autoImplicit false

/-!
# File trees

A file tree is a map from paths to nodes: files with their bytes, and directories.
The top directory is always there.  A written path is followed name by name
(`locate`); what it leads to decides which operations are possible, and what comes of
them.
-/

namespace ConfigEditor

/-- A path below the top directory, as the names along it. -/
abbrev FilePath := List Text

/-- What is at a path. -/
inductive FileNode where
  | file (bytes : Bytes)
  | directory
  deriving DecidableEq, Repr, Inhabited

/-- Files and directories under their paths. -/
structure FileTree where
  nodes : OrderedMap FilePath FileNode
  deriving DecidableEq, Repr, Inhabited

/-- Where a written path leads. -/
inductive Location where
  | file (path : FilePath) (bytes : Bytes)
  | directory (path : FilePath)
  /-- Nothing is there, but its directory is. -/
  | vacant (path : FilePath)
  /-- The directory is missing as well. -/
  | missing
  /-- A file stands where the path needs a directory. -/
  | blocked
  deriving DecidableEq, Repr, Inhabited

namespace FileTree

/-- The tree without files. -/
def empty : FileTree := ⟨.empty⟩

/-! ## Paths -/

/-- The stretches of a text between slashes. -/
def splitPath : Text → List Text
  | [] => [[]]
  | c :: rest =>
    match splitPath rest with
    | [] => [[c]]
    | name :: names => if c == '/' then [] :: name :: names else (c :: name) :: names

/-- A name that leads nowhere new: the empty one, between two slashes, and a dot. -/
def stays (name : Text) : Bool := name.isEmpty || name == ['.']

/-- Two dots, where they lead to the directory above.  At the top they are a name like any
other. -/
def goesUp (here : FilePath) (name : Text) : Bool :=
  name == ['.', '.'] && here.getLast?.any (· != ['.', '.'])

/-- Follows names from a directory. -/
def follow (tree : FileTree) (here : FilePath) : List Text → Location
  | [] => .directory here
  | name :: rest =>
    if stays name then tree.follow here rest
    else if goesUp here name then tree.follow here.dropLast rest
    else
      match tree.nodes.get? (here ++ [name]) with
      | some .directory => tree.follow (here ++ [name]) rest
      | some (.file bytes) => if rest.isEmpty then .file (here ++ [name]) bytes else .blocked
      | none =>
        if rest.isEmpty && name != ['.', '.'] then .vacant (here ++ [name]) else .missing

/-- Where a written path leads.  The empty path leads nowhere. -/
def locate (tree : FileTree) (path : Text) : Location :=
  if path.isEmpty then .missing else tree.follow [] (splitPath path)

/-- The path of a temporary file beside a target; the tag keeps it apart from other files. -/
def temporaryPath (path tag : Text) : Text := path ++ ".tmp.".toList ++ tag

/-! ## Building -/

/-- A directory at a path, unless something is there. -/
def ensureDirectory (tree : FileTree) (path : FilePath) : FileTree :=
  if tree.nodes.contains path then tree else ⟨tree.nodes.insert path .directory⟩

/-- Follows names from a directory, adding the directories along them, and puts a node at the
end. -/
def placeFrom (tree : FileTree) (here : FilePath) (node : FileNode) : List Text → FileTree
  | [] => tree
  | name :: rest =>
    if stays name then tree.placeFrom here node rest
    else if goesUp here name then tree.placeFrom here.dropLast node rest
    else
      let path := here ++ [name]
      if rest.isEmpty then
        match node with
        | .directory => tree.ensureDirectory path
        | .file bytes => ⟨tree.nodes.insert path (.file bytes)⟩
      else (tree.ensureDirectory path).placeFrom path node rest

/-- Puts a node where a written path leads, with the directories above it. -/
def place (tree : FileTree) (path : Text) (node : FileNode) : FileTree :=
  tree.placeFrom [] node (splitPath path)

/-! ## Operations -/

/-- Whether something is at a path; nothing if a file is in the way. -/
def exists? (tree : FileTree) (path : Text) : Option Bool :=
  match tree.locate path with
  | .file _ _ => some true
  | .directory _ => some true
  | .vacant _ => some false
  | .missing => some false
  | .blocked => none

/-- The bytes of a file. -/
def contents? (tree : FileTree) (path : Text) : Option Bytes :=
  match tree.locate path with
  | .file _ bytes => some bytes
  | _ => none

/-- Where a file can be written: a path that holds a file or nothing. -/
def writable? (tree : FileTree) (path : Text) : Option FilePath :=
  match tree.locate path with
  | .file place _ => some place
  | .vacant place => some place
  | _ => none

/-- Writes a file, over the old one if there is one. -/
def write? (tree : FileTree) (path : Text) (bytes : Bytes) : Option FileTree :=
  (tree.writable? path).map fun place => ⟨tree.nodes.insert place (.file bytes)⟩

/-- Removes a file. -/
def remove? (tree : FileTree) (path : Text) : Option FileTree :=
  match tree.locate path with
  | .file place _ => some ⟨tree.nodes.erase place⟩
  | _ => none

/-- Moves a file to a path that holds a file or nothing. -/
def rename? (tree : FileTree) (source target : Text) : Option FileTree :=
  match tree.locate source, tree.writable? target with
  | .file place bytes, some goal =>
    some ⟨(tree.nodes.erase place).insert goal (.file bytes)⟩
  | _, _ => none

end FileTree

end ConfigEditor
