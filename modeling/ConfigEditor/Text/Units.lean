import ConfigEditor.Text.Blank
set_option autoImplicit false

/-!
# Text: UTF-16 code units

A character below U+10000 is one code unit, any other one is a pair of surrogates.
Patterns without the Unicode flag count and match by these units.
-/

namespace ConfigEditor.Text

/-- Code units of a character. -/
def charUnits (c : Char) : List Nat :=
  if c.toNat < 0x10000 then [c.toNat]
  else [0xD800 + (c.toNat - 0x10000) / 0x400, 0xDC00 + (c.toNat - 0x10000) % 0x400]

/-- Code units of a text. -/
def units (s : Text) : List Nat := s.flatMap charUnits

/-- Code points of a text. -/
def codePoints (s : Text) : List Nat := s.map Char.toNat

/-- The first half of a surrogate pair. -/
def isLeadUnit (n : Nat) : Bool := 0xD800 ≤ n && n ≤ 0xDBFF

/-- The second half of a surrogate pair. -/
def isTrailUnit (n : Nat) : Bool := 0xDC00 ≤ n && n ≤ 0xDFFF

/-- The code point of a surrogate pair. -/
def joinUnits (lead trail : Nat) : Nat := 0x10000 + (lead - 0xD800) * 0x400 + (trail - 0xDC00)

end ConfigEditor.Text
