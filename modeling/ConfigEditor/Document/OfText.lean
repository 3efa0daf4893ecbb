import ConfigEditor.Document
import ConfigEditor.Key
import ConfigEditor.Token
set_option autoImplicit false

/-!
# Documents: reading a text

The tokens of a text are taken in order.  A header opens its section, which stays at
hand until the next header; an entry with a valid key is recorded there.  Invalid
tokens, entries without a valid key and entries before the first header are problems.
All problems of a text are reported together, in order, and a text with a problem
yields no document.
-/

namespace ConfigEditor

/-- What reading has built so far: the document, the identity of the section at hand and the
problems. -/
structure ReadState where
  doc : Document
  current : Option Text
  problems : List Problem
  deriving DecidableEq, Repr, Inhabited

namespace ReadState

/-- Nothing read. -/
def start : ReadState := ⟨.empty, none, []⟩

/-- One more problem. -/
def reject (s : ReadState) (line : Nat) (text : Text) (fault : LineFault) : ReadState :=
  { s with problems := s.problems ++ [⟨line, text, fault⟩] }

/-- The occurrence that the value of an entry token makes. -/
def entryOf : Option Text → Entry
  | some text => .assigned text
  | none => .bare

/-- Takes one token. -/
def step (s : ReadState) : Token → ReadState
  | .blank _ => s
  | .comment _ _ => s
  | .header _ _ id => { s with doc := s.doc.openSection id, current := some id.identity }
  | .invalid line text fault => s.reject line text fault
  | .entry line text key value =>
    if Key.isValid key then
      match s.current with
      | none => s.reject line text .outsideSection
      | some identity =>
        { s with doc := s.doc.record identity (Key.normalize key) (entryOf value) }
    else if key.isEmpty then s.reject line text .missingKey
    else s.reject line text (.invalidKey key)

/-- The document, or all problems. -/
def finish (s : ReadState) : Except Fault Document :=
  if s.problems.isEmpty then .ok s.doc else .error (.badLines s.problems)

end ReadState

namespace Document

/-- The document that a row of tokens describes. -/
def ofTokens (tokens : List Token) : Except Fault Document :=
  (tokens.foldl ReadState.step .start).finish

/-- The document that a text describes. -/
def ofText (text : Text) : Except Fault Document := ofTokens (Token.tokenize text)

end Document

end ConfigEditor
