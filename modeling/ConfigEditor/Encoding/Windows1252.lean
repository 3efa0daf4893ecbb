import ConfigEditor.Encoding.Utf8
set_option autoImplicit false

/-!
# Encoding: windows-1252

Every byte is a character: the bytes from 80 to 9F hexadecimal by a table, any other
byte the character with its number.  The five bytes without a character of their own
stand for the control characters with their numbers, so decoding never fails.
-/

namespace ConfigEditor.Windows1252

/-- Characters of the bytes from 80 to 9F hexadecimal. -/
def upperControls : List Nat :=
  [0x20AC, 0x81, 0x201A, 0x0192, 0x201E, 0x2026, 0x2020, 0x2021,
    0x02C6, 0x2030, 0x0160, 0x2039, 0x0152, 0x8D, 0x017D, 0x8F,
    0x90, 0x2018, 0x2019, 0x201C, 0x201D, 0x2022, 0x2013, 0x2014,
    0x02DC, 0x2122, 0x0161, 0x203A, 0x0153, 0x9D, 0x017E, 0x0178]

/-- The character of a byte. -/
def decodeByte (b : UInt8) : Char :=
  let n := b.toNat
  if 0x80 ≤ n then Char.ofNat (upperControls.getD (n - 0x80) n) else Char.ofNat n

/-- The text of a row of bytes. -/
def decode (bytes : Bytes) : Text := bytes.map decodeByte

end ConfigEditor.Windows1252
