import ConfigEditor.Text.Blank
set_option autoImplicit false

/-!
# Encoding: UTF-8

`encode` writes each character in the fewest bytes.  `decode` is strict: it accepts
exactly the sequences that `encode` writes, so it refuses overlong forms, surrogates,
numbers above U+10FFFF and anything cut short.  Neither of them treats a byte order
mark in a special way.
-/

namespace ConfigEditor

/-- A row of bytes. -/
abbrev Bytes := List UInt8

namespace Utf8

/-- A byte of a number below 256. -/
def byte (n : Nat) : UInt8 := UInt8.ofNat n

/-- Bytes of a character. -/
def encodeChar (c : Char) : Bytes :=
  let n := c.toNat
  if n < 0x80 then [byte n]
  else if n < 0x800 then [byte (0xC0 + n / 0x40), byte (0x80 + n % 0x40)]
  else if n < 0x10000 then
    [byte (0xE0 + n / 0x1000), byte (0x80 + n / 0x40 % 0x40), byte (0x80 + n % 0x40)]
  else
    [byte (0xF0 + n / 0x40000), byte (0x80 + n / 0x1000 % 0x40), byte (0x80 + n / 0x40 % 0x40),
      byte (0x80 + n % 0x40)]

/-- Bytes of a text. -/
def encode (s : Text) : Bytes := s.flatMap encodeChar

/-- The six bits of a byte that continues a character. -/
def tail? (b : UInt8) : Option Nat :=
  if 0x80 ≤ b.toNat ∧ b.toNat < 0xC0 then some (b.toNat - 0x80) else none

/-- The character of a number, if the number is at least `least` and a scalar value. -/
def scalar? (least n : Nat) : Option Char :=
  if least ≤ n ∧ (n < 0xD800 ∨ 0xE000 ≤ n ∧ n < 0x110000) then some (Char.ofNat n) else none

/-- The character of two bytes. -/
def two? (a b : UInt8) : Option Char :=
  match tail? b with
  | some x => if 0xC0 ≤ a.toNat then scalar? 0x80 ((a.toNat - 0xC0) * 0x40 + x) else none
  | none => none

/-- The character of three bytes. -/
def three? (a b c : UInt8) : Option Char :=
  match tail? b, tail? c with
  | some x, some y => scalar? 0x800 ((a.toNat - 0xE0) * 0x1000 + x * 0x40 + y)
  | _, _ => none

/-- The character of four bytes. -/
def four? (a b c d : UInt8) : Option Char :=
  match tail? b, tail? c, tail? d with
  | some x, some y, some z =>
    scalar? 0x10000 ((a.toNat - 0xF0) * 0x40000 + x * 0x1000 + y * 0x40 + z)
  | _, _, _ => none

/-- The text of a row of bytes, if it is UTF-8 throughout.  The first byte of a character tells
how many bytes it has. -/
def decode : Bytes → Option Text
  | [] => some []
  | a :: rest =>
    if a.toNat < 0x80 then (decode rest).map (Char.ofNat a.toNat :: ·)
    else if a.toNat < 0xE0 then
      match rest with
      | b :: rest =>
        match two? a b with
        | some ch => (decode rest).map (ch :: ·)
        | none => none
      | [] => none
    else if a.toNat < 0xF0 then
      match rest with
      | b :: c :: rest =>
        match three? a b c with
        | some ch => (decode rest).map (ch :: ·)
        | none => none
      | _ => none
    else
      match rest with
      | b :: c :: d :: rest =>
        match four? a b c d with
        | some ch => (decode rest).map (ch :: ·)
        | none => none
      | _ => none

end Utf8

end ConfigEditor
