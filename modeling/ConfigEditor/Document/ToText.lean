import ConfigEditor.Document
set_option autoImplicit false

/-!
# Documents: writing a text

A document is written in one canonical layout: a header line per section, a line per
occurrence with one tab before the key and ` = ` before the value, and a line feed
after every line.  Comments and blank lines are not part of a document, so none are
written.
-/

namespace ConfigEditor

/-- The header line of a section. -/
def Section.headerLine (s : Section) : Text := '[' :: (s.id.identity ++ [']'])

/-- The line of one occurrence.  Trailing white space is dropped, so an empty value leaves the
equals sign at the end. -/
def Entry.line (key : Text) : Entry → Text
  | .assigned text => Text.trimEnd ('\t' :: (key ++ ' ' :: '=' :: ' ' :: text))
  | .bare => '\t' :: key

/-- The lines of a section. -/
def Section.lines (s : Section) : List Text :=
  s.headerLine :: s.options.pairs.flatMap fun (key, value) => value.entries.map (Entry.line key)

namespace Document

/-- The lines of a document. -/
def lines (doc : Document) : List Text := doc.sectionList.flatMap Section.lines

/-- The text of a document. -/
def toText (doc : Document) : Text := doc.lines.flatMap fun line => line ++ ['\n']

end Document

end ConfigEditor
