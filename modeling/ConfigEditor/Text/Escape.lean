import ConfigEditor.Text.Substitution
set_option autoImplicit false

/-!
# Text: escaping with a lead character

An escape codec writes some characters as a *lead* followed by a *trigger*.  It is
given by the lead and by pairs of a plain text and its trigger; both directions are
read off that one list, and of two pairs with the same plain text (for escaping) or
the same trigger (for unescaping) the later counts.

Unescaping scans from left to right.  A lead takes the next character with it: that
character is replaced by the plain text whose trigger it is, or stands for itself if
it is no trigger.  A lead at the very end yields nothing.
-/

namespace ConfigEditor

/-- A lead and pairs of a plain text and its trigger. -/
structure EscapeCodec where
  lead : Text
  pairs : List (Text × Text)
  deriving DecidableEq, Repr, Inhabited

namespace EscapeCodec

/-- Plain texts with their escaped forms. -/
def escapes (codec : EscapeCodec) : ReplacementTable :=
  codec.pairs.map fun (plain, trigger) => (plain, codec.lead ++ trigger)

/-- Triggers with the plain texts they stand for. -/
def unescapes (codec : EscapeCodec) : ReplacementTable :=
  codec.pairs.map fun (plain, trigger) => (trigger, plain)

/-- The escaped form of a text. -/
def escape (codec : EscapeCodec) (s : Text) : Text := codec.escapes.replace s

/-- The rest of a scan; `pending` tells that the character before was an unconsumed lead. -/
def unescapeFrom (codec : EscapeCodec) (pending : Bool) : Text → Text
  | [] => []
  | c :: rest =>
    if pending then codec.unescapes.replaceChar c ++ codec.unescapeFrom false rest
    else if [c] == codec.lead then codec.unescapeFrom true rest
    else c :: codec.unescapeFrom false rest

/-- The text that an escaped form stands for. -/
def unescape (codec : EscapeCodec) (s : Text) : Text := codec.unescapeFrom false s

/-- Inside the quotes of a subsection a backslash escapes a backslash and a double quote. -/
def subsection : EscapeCodec where
  lead := ['\\']
  pairs := [(['\\'], ['\\']), (['"'], ['"'])]

end EscapeCodec

end ConfigEditor
