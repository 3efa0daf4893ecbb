import ConfigEditor.Line
import ConfigEditor.SectionId
set_option autoImplicit false

/-!
# Tokens: what a logical line is

Every logical line is exactly one token: blank, a comment, a header, an entry, or
invalid.  A token keeps the number of its line and, but for blank ones, its text.
Whether an entry may stand where it stands is not decided here.
-/

namespace ConfigEditor

/-- A classified logical line.  The value of an entry is absent for a key alone. -/
inductive Token where
  | blank (line : Nat)
  | comment (line : Nat) (text : Text)
  | header (line : Nat) (text : Text) (id : SectionId)
  | entry (line : Nat) (text key : Text) (value : Option Text)
  | invalid (line : Nat) (text : Text) (fault : LineFault)
  deriving DecidableEq, Repr, Inhabited

namespace Token

/-- Number of the first physical line of a token. -/
def line : Token → Nat
  | blank n => n
  | comment n _ => n
  | header n _ _ => n
  | entry n _ _ _ => n
  | invalid n _ _ => n

/-! ## Headers -/

/-- The body of a header and what follows its closing bracket.  A bracket between double
quotes closes nothing; there a backslash takes the next character with it, unless that ends a
line. -/
def splitHeader (inQuotes : Bool) : Text → Option (Text × Text)
  | [] => none
  | c :: rest =>
    if inQuotes then
      if c == '\\' then
        match rest with
        | [] => none
        | d :: tail =>
          if Text.isLineEnd d then none
          else (splitHeader true tail).map fun (body, after) => (c :: d :: body, after)
      else (splitHeader (c != '"') rest).map fun (body, after) => (c :: body, after)
    else if c == ']' then some ([], rest)
    else (splitHeader (c == '"') rest).map fun (body, after) => (c :: body, after)

/-- What may follow a closing bracket: white space, then nothing or a comment that stays on
its line. -/
def closesHeader (after : Text) : Bool :=
  match after.trimStart with
  | [] => true
  | c :: tail => (c == '#' || c == ';') && tail.all fun d => !Text.isLineEnd d

/-- The text between the brackets of a well-formed header. -/
def headerBody? : Text → Option Text
  | '[' :: rest =>
    match splitHeader false rest with
    | some (body, after) => if closesHeader after then some body else none
    | none => none
  | _ => none

/-- The token of a content that starts with a bracket. -/
def ofHeader (line : Nat) (text content : Text) : Token :=
  match headerBody? content with
  | none => invalid line text .unterminatedHeader
  | some body =>
    match SectionId.ofHeader body with
    | .ok id => header line text id
    | .error refusal => invalid line text (.header refusal)

/-! ## Entries -/

/-- The token of a content that is neither empty nor a comment nor a header: a key alone, or a
key, an equals sign and a value. -/
def ofEntry (line : Nat) (text content : Text) : Token :=
  match content.dropWhile (· != '=') with
  | [] => entry line text content.trim none
  | _ :: value =>
    entry line text (Text.trim (content.takeWhile (· != '='))) (some (Line.cleanValue value))

/-! ## Classification -/

/-- The token of a logical line. -/
def classify (line : Nat) (text : Text) : Token :=
  let content := text.dropIndent.trimEnd
  if content.isEmpty then blank line
  else if Line.isComment content then comment line text
  else if Line.isBracketed content then ofHeader line text content
  else ofEntry line text content

/-- The tokens of a text, one for each logical line. -/
def tokenize (text : Text) : List Token :=
  (LogicalLine.ofText text).map fun l => classify l.line l.text

end Token

end ConfigEditor
