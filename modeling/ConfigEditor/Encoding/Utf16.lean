import ConfigEditor.Encoding.Utf8
import ConfigEditor.Text.Units
set_option autoImplicit false

/-!
# Encoding: UTF-16

Two bytes make a code unit, in either byte order, and code units make characters as
`Text.units` writes them.  Decoding is strict: an odd byte at the end and a surrogate
without its partner are refused.

A row of code units need not be the units of a text.  An encoder takes it all the same and
writes U+FFFD for each surrogate without its partner (`toUtf8`).
-/

namespace ConfigEditor.Utf16

/-- The order of the two bytes of a code unit. -/
inductive ByteOrder where
  | littleEndian
  | bigEndian
  deriving DecidableEq, Repr, Inhabited

/-- A code unit from its bytes. -/
def unit : ByteOrder → UInt8 → UInt8 → Nat
  | .littleEndian, a, b => b.toNat * 0x100 + a.toNat
  | .bigEndian, a, b => a.toNat * 0x100 + b.toNat

/-- The code units of a row of bytes; nothing if a byte is left over. -/
def unitsOf (order : ByteOrder) : Bytes → Option (List Nat)
  | [] => some []
  | [_] => none
  | a :: b :: rest => (unitsOf order rest).map (unit order a b :: ·)

/-- The text of a row of code units; nothing if a surrogate has no partner. -/
def ofUnits : List Nat → Option Text
  | [] => some []
  | [n] => if Text.isLeadUnit n || Text.isTrailUnit n then none else some [Char.ofNat n]
  | n :: m :: rest =>
    if Text.isLeadUnit n then
      if Text.isTrailUnit m then (ofUnits rest).map (Char.ofNat (Text.joinUnits n m) :: ·)
      else none
    else if Text.isTrailUnit n then none
    else (ofUnits (m :: rest)).map (Char.ofNat n :: ·)

/-- The text of a row of code units, with U+FFFD for a surrogate that has no partner. -/
def repair : List Nat → Text
  | [] => []
  | [n] => if Text.isLeadUnit n || Text.isTrailUnit n then ['\uFFFD'] else [Char.ofNat n]
  | n :: m :: rest =>
    if Text.isLeadUnit n then
      if Text.isTrailUnit m then Char.ofNat (Text.joinUnits n m) :: repair rest
      else '\uFFFD' :: repair (m :: rest)
    else if Text.isTrailUnit n then '\uFFFD' :: repair (m :: rest)
    else Char.ofNat n :: repair (m :: rest)

/-- The bytes in UTF-8 that are written for a row of code units. -/
def toUtf8 (units : List Nat) : Bytes := Utf8.encode (repair units)

/-- The text of a row of bytes. -/
def decode (order : ByteOrder) (bytes : Bytes) : Option Text :=
  (unitsOf order bytes).bind ofUnits

end ConfigEditor.Utf16
