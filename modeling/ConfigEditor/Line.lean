import ConfigEditor.Text.Blank
set_option autoImplicit false

/-!
# Lines: physical and logical

A file is split at line feeds, a carriage return before a line feed going with it
(`physicalLines`).  An entry whose text ends in an odd run of backslashes goes on in
the next line: the last backslash is dropped and the next line is appended as it
stands (`logicalLines`).  Headers, comments and remarks never go on, whatever they
end in.

The value of an entry is cleaned after joining: white space at both ends is dropped,
then everything from a `;` that follows a blank, then white space again, and a value
made of two quotes only is empty (`cleanValue`).
-/

namespace ConfigEditor

namespace Line

open Text

/-- The lines of a text, without the line feeds and the carriage returns before them. -/
def physicalLines : Text → List Text
  | [] => [[]]
  | '\n' :: rest => [] :: physicalLines rest
  | '\r' :: '\n' :: rest => [] :: physicalLines rest
  | c :: rest =>
    match physicalLines rest with
    | [] => [[c]]
    | line :: lines => (c :: line) :: lines

/-! ## What a line starts with -/

/-- A remark is the word `rem` in any case, white space, and something that does not start
with `=`. -/
def isRemark : Text → Bool
  | r :: e :: m :: c :: rest =>
    r.toLower == 'r' && e.toLower == 'e' && m.toLower == 'm' && isBlank c &&
      match trimStart rest with
      | [] => false
      | d :: _ => d != '='
  | _ => false

/-- A content that starts with `#` or `;` is a comment, and so is a remark. -/
def isComment (content : Text) : Bool :=
  match content with
  | [] => false
  | c :: _ => c == '#' || c == ';' || isRemark content

/-- A content that starts with an opening bracket is a header, well formed or not. -/
def isBracketed : Text → Bool
  | [] => false
  | c :: _ => c == '['

/-- A physical line that may go on in the next one: after its indentation it is neither empty
nor a comment nor a header. -/
def opensEntry (line : Text) : Bool :=
  let content := line.dropIndent
  !content.isEmpty && !isComment content && !isBracketed content

/-! ## Continuation -/

/-- An odd run of backslashes at the end joins a line to the next one. -/
def continues (line : Text) : Bool := trailingCount ['\\'] line % 2 == 1

end Line

/-- One or more physical lines joined, with the number of the first. -/
structure LogicalLine where
  line : Nat
  text : Text
  deriving DecidableEq, Repr, Inhabited

namespace LogicalLine

/-- Logical lines of the physical lines from number `next` on, of which `open?` is the part
of a logical line read so far. -/
def join (open? : Option LogicalLine) (next : Nat) : List Text → List LogicalLine
  | [] => open?.toList
  | line :: lines =>
    let current : LogicalLine :=
      match open? with
      | none => ⟨next, line⟩
      | some started => ⟨started.line, started.text ++ line⟩
    if (open?.isSome || Line.opensEntry line) && Line.continues current.text then
      join (some ⟨current.line, current.text.dropLast⟩) (next + 1) lines
    else
      current :: join none (next + 1) lines

/-- The logical lines of a text. -/
def ofText (text : Text) : List LogicalLine := join none 1 (Line.physicalLines text)

end LogicalLine

/-! ## Values -/

namespace Line

open Text

/-- A value up to the first `;` that follows a blank; `afterBlank` tells whether the
character before was one. -/
def beforeComment (afterBlank : Bool) : Text → Text
  | [] => []
  | c :: rest => if c == ';' && afterBlank then [] else c :: beforeComment (isPlainBlank c) rest

/-- Two double quotes or two single quotes and nothing between them. -/
def isQuotedEmpty (value : Text) : Bool := value == ['"', '"'] || value == ['\'', '\'']

/-- The value that the text after the equals sign stands for. -/
def cleanValue (raw : Text) : Text :=
  let value := (beforeComment false raw.trim).trim
  if isQuotedEmpty value then [] else value

end Line

end ConfigEditor
