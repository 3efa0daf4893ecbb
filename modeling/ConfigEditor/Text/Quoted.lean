import ConfigEditor.Text.Blank
set_option autoImplicit false

/-!
# Text: quoting

Messages and records show a text between double quotes.  A double quote and a
backslash get a backslash before them, the control characters below U+0020 are
written by a letter (`\b`, `\t`, `\n`, `\f`, `\r`) or by four lower-case hexadecimal
digits, and every other character stands for itself.
-/

namespace ConfigEditor.Text

/-- Lower-case hexadecimal digit of a number below sixteen. -/
def hexDigit (n : Nat) : Char :=
  if n < 10 then Char.ofNat (0x30 + n) else Char.ofNat (0x61 + n - 10)

/-- The last four hexadecimal digits of a number. -/
def hexFour (n : Nat) : Text :=
  [hexDigit (n / 4096 % 16), hexDigit (n / 256 % 16), hexDigit (n / 16 % 16),
    hexDigit (n % 16)]

/-- A character as it stands between the quotes. -/
def quotedChar (c : Char) : Text :=
  if c == '"' then ['\\', '"']
  else if c == '\\' then ['\\', '\\']
  else if c == '\x08' then ['\\', 'b']
  else if c == '\t' then ['\\', 't']
  else if c == '\n' then ['\\', 'n']
  else if c == '\x0c' then ['\\', 'f']
  else if c == '\r' then ['\\', 'r']
  else if c.toNat < 0x20 then '\\' :: 'u' :: hexFour c.toNat
  else [c]

/-- A text between double quotes. -/
def quoted (s : Text) : Text := '"' :: (s.flatMap quotedChar ++ ['"'])

/-- Decimal digits of a natural number. -/
def decimal (n : Nat) : Text := Nat.toDigits 10 n

end ConfigEditor.Text
