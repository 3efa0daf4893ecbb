import ConfigEditor.Entry
import ConfigEditor.OrderedMap
import ConfigEditor.SectionId
set_option autoImplicit false

/-!
# Documents

A document is an ordered map from identities to sections, and a section an ordered map
from normal keys to stored values.  The two ways in which a document grows are here:
`openSection` appends an empty section unless its identity is known, and `record`
appends one occurrence of a key to a section.  Reading a file and merging are folds of
these two.
-/

namespace ConfigEditor

/-- A section: its id and its options under their normal keys. -/
structure Section where
  id : SectionId
  options : OrderedMap Text Stored
  deriving DecidableEq, Repr, Inhabited

namespace Section

/-- A section without options. -/
def new (id : SectionId) : Section := ⟨id, .empty⟩

/-- Appends one occurrence of a key. -/
def record (s : Section) (key : Text) (entry : Entry) : Section :=
  { s with options := s.options.insert key (Stored.append? (s.options.get? key) entry) }

end Section

/-- A document: its sections under their identities. -/
structure Document where
  sections : OrderedMap Text Section
  deriving DecidableEq, Repr, Inhabited

namespace Document

/-- The document without sections. -/
def empty : Document := ⟨.empty⟩

/-- The sections in order. -/
def sectionList (doc : Document) : List Section := doc.sections.values

/-- Puts a section under an identity. -/
def putSection (doc : Document) (identity : Text) (s : Section) : Document :=
  ⟨doc.sections.insert identity s⟩

/-- Appends an empty section, unless its identity is known. -/
def openSection (doc : Document) (id : SectionId) : Document :=
  if doc.sections.contains id.identity then doc else doc.putSection id.identity (.new id)

/-- Appends one occurrence of a key to the section with an identity, if there is one. -/
def record (doc : Document) (identity key : Text) (entry : Entry) : Document :=
  match doc.sections.get? identity with
  | none => doc
  | some s => doc.putSection identity (s.record key entry)

/-- Appends several occurrences of a key. -/
def recordAll (doc : Document) (identity key : Text) (entries : List Entry) : Document :=
  entries.foldl (fun d entry => d.record identity key entry) doc

/-- Opens a section and appends all occurrences of all its keys. -/
def mergeSection (doc : Document) (s : Section) : Document :=
  s.options.pairs.foldl
    (fun d (key, value) => d.recordAll s.id.identity key value.entries)
    (doc.openSection s.id)

/-- Folds a source document into a target, as if the text of the source followed that of the
target. -/
def merge (target source : Document) : Document :=
  source.sectionList.foldl mergeSection target

end Document

end ConfigEditor
