import ConfigEditor.Document
import ConfigEditor.Key
set_option autoImplicit false

/-!
# Documents: queries

A section is looked up by any spelling of its identity, a key by any spelling of its
normal form.  A look-up that finds no section, or no option in it, fails and names
what was asked for as it was asked for.

Equality of documents (`equals`) compares sections in order by identity and by the
flat list of their occurrences (`Section.signature`).
-/

namespace ConfigEditor

/-- One occurrence as a flat text: the key, and an equals sign and the text if one was
assigned. -/
def Entry.signature (key : Text) : Entry → Text
  | .assigned text => key ++ '=' :: text
  | .bare => key

/-- The flat texts of all occurrences in order. -/
def Section.signature (s : Section) : List Text :=
  s.options.pairs.flatMap fun (key, value) => value.entries.map (Entry.signature key)

/-- A line of a listing: dotted name and value. -/
structure DottedEntry where
  name : Text
  value : Text
  deriving DecidableEq, Repr, Inhabited

namespace Document

/-! ## Sections -/

/-- The identities in order. -/
def identities (doc : Document) : List Text := doc.sections.keys

/-- A section with a given spelling is present. -/
def hasSection (doc : Document) (name : Text) : Bool :=
  doc.sections.contains (SectionId.canonical name)

/-- The section with a given spelling. -/
def findSection (doc : Document) (name : Text) : Except Fault Section :=
  match doc.sections.get? (SectionId.canonical name) with
  | some s => .ok s
  | none => .error (.noSection name)

/-! ## Options -/

/-- What is stored under a key of a section. -/
def findValue (doc : Document) (name key : Text) : Except Fault Stored :=
  match doc.findSection name with
  | .error fault => .error fault
  | .ok s =>
    match s.options.get? (Key.normalize key) with
    | some value => .ok value
    | none => .error (.noOption name key)

/-- The keys of a section in order. -/
def optionKeys (doc : Document) (name : Text) : Except Fault (List Text) :=
  (doc.findSection name).map fun s => s.options.keys

/-- An option is present. -/
def hasOption (doc : Document) (name key : Text) : Bool := (doc.findValue name key).isOk

/-- The text of an option that occurs once, or the texts of one that occurs several times. -/
def get (doc : Document) (name key : Text) : Except Fault Reading :=
  (doc.findValue name key).map Stored.reading

/-- The texts of all occurrences of an option. -/
def getAll (doc : Document) (name key : Text) : Except Fault (List Text) :=
  (doc.findValue name key).map Stored.texts

/-- The options of a section with what a look-up of each hands back. -/
def items (doc : Document) (name : Text) : Except Fault (List (Text × Reading)) :=
  (doc.findSection name).map fun s =>
    s.options.pairs.map fun (key, value) => (key, value.reading)

/-! ## Whole documents -/

/-- Every occurrence as a dotted name and its text, in order. -/
def toEntries (doc : Document) : List DottedEntry :=
  doc.sectionList.flatMap fun s =>
    s.options.pairs.flatMap fun (key, value) =>
      value.texts.map fun text => ⟨s.id.dotted ++ '.' :: key, text⟩

/-- Same identities in the same order, with the same occurrences in the same order. -/
def equals (a b : Document) : Bool :=
  a.sectionList.map (fun s => (s.id.identity, s.signature)) ==
    b.sectionList.map (fun s => (s.id.identity, s.signature))

theorem equals_self (doc : Document) : doc.equals doc = true := beq_self_eq_true _

end Document

end ConfigEditor
