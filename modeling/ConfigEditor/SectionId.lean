import ConfigEditor.Fault
import ConfigEditor.Text.CharClass
import ConfigEditor.Text.Escape
set_option autoImplicit false

/-!
# Section names

A section is called either `name` or `name "subsection"`.  Its *identity* is that
spelling with single spacing and with the subsection exactly as quoted in the file,
escapes included; sections are the same when their identities are.  Beside the
identity a `SectionId` holds the name and the unescaped subsection.

* `ofHeader` reads the text between the brackets of a header, or an identity given by
  a caller.
* `make` builds an id from a name and an unescaped subsection.
* `resolve` reads what a command line gives: an identity, or the dotted form
  `name.subsection`.
* `dotted` is the dotted form, used in listings.
-/

namespace ConfigEditor

/-- Identity, name and unescaped subsection of a section. -/
structure SectionId where
  identity : Text
  name : Text
  subsection : Option Text
  deriving DecidableEq, Repr, Inhabited

namespace SectionId

/-- A section name is not empty and holds letters, digits, hyphens and dots only. -/
def isValidName (name : Text) : Bool := !name.isEmpty && name.all Text.isNameChar

/-- The identity made of a name and a subsection as it is quoted. -/
def spell (name : Text) : Option Text → Text
  | none => name
  | some raw => name ++ ' ' :: '"' :: (raw ++ ['"'])

/-- The text up to the closing quote, which must be the last character.  Inside, a backslash
takes the next character with it, unless that ends a line. -/
def quotedToEnd : Text → Option Text
  | [] => none
  | ['"'] => some []
  | '"' :: _ :: _ => none
  | ['\\'] => none
  | '\\' :: c :: rest =>
    if Text.isLineEnd c then none else (quotedToEnd rest).map fun raw => '\\' :: c :: raw
  | c :: rest => (quotedToEnd rest).map (c :: ·)

/-- The quoted subsection that follows a name: nothing, or white space and a quoted text. -/
def subsectionAfterName (rest : Text) : Option (Option Text) :=
  match rest with
  | [] => some none
  | _ :: _ =>
    match rest.trimStart with
    | '"' :: inner => (quotedToEnd inner).map some
    | _ => none

/-- The id made of a valid name and a subsection as it is quoted. -/
def ofParts (name : Text) (raw : Option Text) : SectionId where
  identity := spell name raw
  name := name
  subsection := raw.map EscapeCodec.subsection.unescape

/-- The id that a header body or an identity spells. -/
def ofHeader (text : Text) : Except Refusal SectionId :=
  let body := text.trim
  let name := body.takeWhile fun c => !Text.isBlank c
  match subsectionAfterName (body.dropWhile fun c => !Text.isBlank c) with
  | some raw => if isValidName name then .ok (ofParts name raw) else .error (.sectionName text)
  | none => .error (.sectionName text)

/-- The id with a given name and unescaped subsection. -/
def make (name : Text) (subsection : Option Text) : Except Refusal SectionId :=
  if isValidName name then
    .ok
      { identity := spell name (subsection.map EscapeCodec.subsection.escape)
        name := name
        subsection := subsection }
  else .error (.sectionName name)

/-- The id that a command line argument means.  An argument with a dot and no double quote is
the dotted form: the first dot ends the name, and the rest is the unescaped subsection.  Any
other argument is an identity. -/
def resolve (input : Text) : Except Refusal SectionId :=
  if input.contains '"' || !input.contains '.' then ofHeader input
  else make (input.takeWhile (· != '.')) (some ((input.dropWhile (· != '.')).drop 1))

/-- The dotted form: name, dot, unescaped subsection. -/
def dotted (id : SectionId) : Text :=
  match id.subsection with
  | none => id.name
  | some sub => id.name ++ '.' :: sub

/-- The spelling by which a caller's section name is looked up: its identity if it names a
section, itself otherwise. -/
def canonical (text : Text) : Text :=
  match ofHeader text with
  | .ok id => id.identity
  | .error _ => text

end SectionId

end ConfigEditor
