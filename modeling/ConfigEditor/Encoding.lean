import ConfigEditor.Encoding.Utf16
import ConfigEditor.Encoding.Windows1252
import ConfigEditor.Fault
set_option autoImplicit false

/-!
# Encodings and sources

A file is a row of bytes in a named encoding.  Names are taken in any case and with
ASCII white space around them.  Decoding is strict, and one byte order mark at the
start of a text in UTF-8 or UTF-16 is no part of it.  A source may also be a text
already; then no encoding is asked for.
-/

namespace ConfigEditor

/-- The encodings that can be read. -/
inductive Encoding where
  | utf8
  | utf16 (order : Utf16.ByteOrder)
  | windows1252
  deriving DecidableEq, Repr, Inhabited

namespace Encoding

/-- ASCII white space, as it may surround the name of an encoding. -/
def isLabelBlank (c : Char) : Bool :=
  c == '\t' || c == '\n' || c == '\x0c' || c == '\r' || c == ' '

/-- A name without the white space around it, in lower case. -/
def normalizeLabel (label : Text) : Text :=
  ((label.dropWhile isLabelBlank).reverse.dropWhile isLabelBlank).reverse.map Char.toLower

/-- Names of encodings. -/
def labels : List (Text × Encoding) :=
  [("utf-8".toList, utf8), ("utf8".toList, utf8), ("unicode-1-1-utf-8".toList, utf8),
    ("windows-1252".toList, windows1252), ("latin1".toList, windows1252),
    ("iso-8859-1".toList, windows1252), ("ascii".toList, windows1252),
    ("us-ascii".toList, windows1252), ("utf-16le".toList, utf16 .littleEndian),
    ("utf-16".toList, utf16 .littleEndian), ("ucs-2".toList, utf16 .littleEndian),
    ("utf-16be".toList, utf16 .bigEndian)]

/-- The encoding with a given name. -/
def ofLabel? (label : Text) : Option Encoding :=
  (labels.find? fun entry => entry.1 == normalizeLabel label).map (·.2)

/-- The text without one byte order mark at its start. -/
def dropMark : Text → Text
  | [] => []
  | c :: rest => if c == '\uFEFF' then rest else c :: rest

/-- The text of a row of bytes. -/
def decode : Encoding → Bytes → Option Text
  | utf8, bytes => (Utf8.decode bytes).map dropMark
  | utf16 order, bytes => (Utf16.decode order bytes).map dropMark
  | windows1252, bytes => some (Windows1252.decode bytes)

/-- The name that is meant where none is given. -/
def defaultLabel : Text := "utf-8".toList

/-- The name of an encoding by which it is told. -/
def name : Encoding → Text
  | utf8 => "utf-8".toList
  | utf16 .littleEndian => "utf-16le".toList
  | utf16 .bigEndian => "utf-16be".toList
  | windows1252 => "windows-1252".toList

/-- Why nothing is decoded under a name that names no encoding. -/
def unsupported (label : Text) : Text :=
  "The ".toList ++ '"' :: label ++ "\" encoding is not supported".toList

/-- Why bytes are not decoded. -/
def malformed (encoding : Encoding) : Text :=
  "The encoded data was not valid for encoding ".toList ++ encoding.name

end Encoding

/-- Where a document is read from: a text, or bytes in some encoding. -/
inductive Source where
  | text (text : Text)
  | bytes (bytes : Bytes)
  deriving DecidableEq, Repr, Inhabited

namespace Source

/-- The text of a source.  The name of the encoding matters for bytes only. -/
def decode (source : Source) (label : Text) : Except Fault Text :=
  match source with
  | .text given => .ok given
  | .bytes given =>
    match Encoding.ofLabel? label with
    | none => .error (.undecodable label (Encoding.unsupported label))
    | some encoding =>
      match encoding.decode given with
      | some decoded => .ok decoded
      | none => .error (.undecodable label encoding.malformed)

end Source

end ConfigEditor
