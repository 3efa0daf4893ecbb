import ConfigEditor.Document.OfText
import ConfigEditor.Document.ToText
import ConfigEditor.Encoding
set_option autoImplicit false

/-!
# Documents: sources and sinks

A document is read from a source in one go (`ofSource`), and written in one go as a text
or as its bytes in UTF-8.
-/

namespace ConfigEditor

/-- What a document is written to. -/
inductive SinkMode where
  | text
  | binary
  deriving DecidableEq, Repr, Inhabited

/-- What a sink receives. -/
inductive Chunk where
  | text (text : Text)
  | bytes (bytes : Bytes)
  deriving DecidableEq, Repr, Inhabited

namespace Document

/-- The document that a source describes. -/
def ofSource (source : Source) (label : Text) : Except Fault Document :=
  match source.decode label with
  | .error fault => .error fault
  | .ok text => ofText text

/-- The bytes of a document. -/
def toBytes (doc : Document) : Bytes := Utf8.encode doc.toText

/-- The one chunk that a sink receives. -/
def write (doc : Document) : SinkMode → Chunk
  | .text => .text doc.toText
  | .binary => .bytes doc.toBytes

end Document

end ConfigEditor
