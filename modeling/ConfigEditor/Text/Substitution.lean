import ConfigEditor.Text.Blank
set_option autoImplicit false

/-!
# Text: replacing single characters

A replacement table pairs texts with the texts that stand in for them.  Applied to a
text, it replaces each character that is an entry of its own; an entry of any other
length is never looked up by a character.  Of two entries for one text the later
counts.
-/

namespace ConfigEditor

/-- Pairs of a text and its replacement. -/
abbrev ReplacementTable := List (Text × Text)

namespace ReplacementTable

/-- The replacement of a text, from the last entry that has one. -/
def find? (table : ReplacementTable) (key : Text) : Option Text :=
  (table.reverse.find? fun entry => entry.1 == key).map (·.2)

/-- The replacement of a character, or the character itself. -/
def replaceChar (table : ReplacementTable) (c : Char) : Text := (table.find? [c]).getD [c]

/-- Every character of a text replaced. -/
def replace (table : ReplacementTable) (s : Text) : Text := s.flatMap table.replaceChar

@[simp] theorem replace_cons (table : ReplacementTable) (c : Char) (s : Text) :
    table.replace (c :: s) = table.replaceChar c ++ table.replace s := by
  simp [replace]

end ReplacementTable

end ConfigEditor
