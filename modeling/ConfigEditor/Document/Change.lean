import ConfigEditor.Document.Edit
set_option autoImplicit false

/-!
# Documents: sequences of changes

A `Change` is one call that may change a document, with its arguments as a caller
gives them.  It is an edit (`Change.edit`), so applied to a document it answers an
outcome or a fault, and leaves a document in either case.
-/

namespace ConfigEditor

/-- A call that may change a document. -/
inductive Change where
  | addSection (name : Text)
  | removeSection (name : Text)
  /-- Opens the section that a command line argument means. -/
  | openSection (input : Text)
  | set (name key value : Text)
  | add (name key value : Text)
  | removeOption (name key : Text)
  | removeMatching (name key : Text) (pattern : PatternArgument)
  | merge (source : Document)
  | mergeSelf
  | read (source : Source) (label : Text)

/-- What a change tells its caller. -/
inductive Outcome where
  | done
  | flag (value : Bool)
  /-- Number of options of the section that was opened. -/
  | count (options : Nat)
  deriving DecidableEq, Repr, Inhabited

namespace Change

/-- Number of options of the section with an identity. -/
def optionCount (doc : Document) (identity : Text) : Nat :=
  ((doc.sections.get? identity).map fun s => s.options.size).getD 0

/-- The edit that a change is, with the outcome that it tells. -/
def edit : Change → Edit Outcome
  | addSection name => do
    let created ← Edit.addSection name
    pure (.flag created)
  | removeSection name => do
    let removed ← Edit.removeSection name
    pure (.flag removed)
  | openSection input => do
    let id ← Procedure.ofRefusal (SectionId.resolve input)
    Edit.openSection id
    let doc ← get
    pure (.count (optionCount doc id.identity))
  | set name key value => do
    Edit.set name key value
    pure .done
  | add name key value => do
    Edit.add name key value
    pure .done
  | removeOption name key => do
    let removed ← Edit.removeOption name key
    pure (.flag removed)
  | removeMatching name key pattern => do
    let removed ← Edit.removeMatching name key pattern
    pure (.flag removed)
  | merge source => do
    Edit.merge source
    pure .done
  | mergeSelf => do
    modify fun doc => doc.merge doc
    pure .done
  | read source label => do
    Edit.read source label
    pure .done

/-- What a change tells its caller, and the document that it leaves. -/
def apply (doc : Document) (change : Change) : Except Fault Outcome × Document :=
  change.edit.perform doc

/-- The outcome of a change and the document after it, or a fault. -/
def attempt (doc : Document) (change : Change) : Except Fault (Outcome × Document) :=
  change.edit.result doc

/-- The document after a sequence of changes. -/
def run (doc : Document) (changes : List Change) : Document :=
  changes.foldl (fun d change => (change.apply d).2) doc

end Change

end ConfigEditor
