import ConfigEditor.Text.Blank
set_option autoImplicit false

/-!
# Text: the character classes of the file format

The format knows ASCII classes only: letters and digits are those of ASCII, a key
holds letters, digits and hyphens, and a section name holds dots as well.  The
predicates on `Char` are what the rest of the library uses.  `CharClass` gives the
same classes a name each and extends them to texts, for callers that hold a text
which should be one character.
-/

namespace ConfigEditor

namespace Text

/-- Characters of a key after its leading letter. -/
def isKeyChar (c : Char) : Bool := c.isAlphanum || c == '-'

/-- Characters of a section name. -/
def isNameChar (c : Char) : Bool := c.isAlphanum || c == '-' || c == '.'

/-- The text is a stretch of consecutive characters of another one. -/
def occursIn (s : Text) : Text → Bool
  | [] => s.isEmpty
  | c :: rest => s.isPrefixOf (c :: rest) || s.occursIn rest

theorem isKeyChar_of_isAlpha {c : Char} (h : c.isAlpha = true) : isKeyChar c = true := by
  simp [isKeyChar, Char.isAlphanum, h]

/-- The code points of the characters of a section name. -/
theorem code_of_isNameChar {c : Char} (h : isNameChar c = true) :
    (65 ≤ c.toNat ∧ c.toNat ≤ 90) ∨ (97 ≤ c.toNat ∧ c.toNat ≤ 122) ∨
      (48 ≤ c.toNat ∧ c.toNat ≤ 57) ∨ c.toNat = 45 ∨ c.toNat = 46 := by
  have expand : isNameChar c =
      (((decide (65 ≤ c.val ∧ c.val ≤ 90) ||
        (decide (97 ≤ c.val) && decide (c.val ≤ 122))) ||
        (decide (48 ≤ c.val) && decide (c.val ≤ 57))) || c == '-' || c == '.') := rfl
  simp only [expand, Bool.or_eq_true, Bool.and_eq_true, decide_eq_true_eq,
    UInt32.le_iff_toNat_le, beq_iff_eq] at h
  change ((((65 ≤ c.toNat ∧ c.toNat ≤ 90) ∨ (97 ≤ c.toNat ∧ c.toNat ≤ 122)) ∨
    (48 ≤ c.toNat ∧ c.toNat ≤ 57)) ∨ c = '-') ∨ c = '.' at h
  rcases h with (((h | h) | h) | rfl) | rfl
  · exact .inl h
  · exact .inr (.inl h)
  · exact .inr (.inr (.inl h))
  · exact .inr (.inr (.inr (.inl rfl)))
  · exact .inr (.inr (.inr (.inr rfl)))

theorem toNat_lt_of_isNameChar {c : Char} (h : isNameChar c = true) : c.toNat < 0x80 := by
  have := code_of_isNameChar h
  omega

theorem isNameChar_of_isKeyChar {c : Char} (h : isKeyChar c = true) :
    isNameChar c = true := by
  simp only [isKeyChar, Bool.or_eq_true] at h
  rcases h with h | h <;> simp [isNameChar, h]

theorem toNat_lt_of_isKeyChar {c : Char} (h : isKeyChar c = true) : c.toNat < 0x80 :=
  toNat_lt_of_isNameChar (isNameChar_of_isKeyChar h)

/-- No character of a section name is white space. -/
theorem isBlank_of_isNameChar {c : Char} (h : isNameChar c = true) : isBlank c = false := by
  have hn : 45 ≤ c.toNat ∧ c.toNat ≤ 122 := by
    have := code_of_isNameChar h
    omega
  simp only [isBlank, isBlankCode, Bool.or_eq_false_iff, Bool.and_eq_false_iff,
    decide_eq_false_iff_not, beq_eq_false_iff_ne, ne_eq]
  omega

/-- What holds of the characters with the first 128 code points holds of every ASCII
character.  For a decidable property the premise is a finite check. -/
theorem forall_ascii {p : Char → Prop} (h : ∀ n, n < 0x80 → p (Char.ofNat n)) {c : Char}
    (hc : c.toNat < 0x80) : p c := by
  have hn := h c.toNat hc
  rwa [Char.ofNat_toNat] at hn

/-- Lower-casing a character of a key gives a character of a key. -/
theorem isKeyChar_toLower {c : Char} (h : isKeyChar c = true) : isKeyChar c.toLower = true :=
  forall_ascii (p := fun c => isKeyChar c = true → isKeyChar c.toLower = true) (by decide)
    (toNat_lt_of_isKeyChar h) h

end Text

/-- The named character classes. -/
inductive CharClass where
  | lower
  | upper
  | digit
  | alpha
  | alphaNum
  | indent
  | plainBlank
  | keyChar
  | nameChar
  /-- The characters of a given text. -/
  | oneOf (members : Text)
  deriving DecidableEq, Repr, Inhabited

namespace CharClass

open Text

/-- Membership of a character. -/
def contains : CharClass → Char → Bool
  | lower, c => c.isLower
  | upper, c => c.isUpper
  | digit, c => c.isDigit
  | alpha, c => c.isAlpha
  | alphaNum, c => c.isAlphanum
  | indent, c => isIndent c
  | plainBlank, c => isPlainBlank c
  | keyChar, c => isKeyChar c
  | nameChar, c => isNameChar c
  | oneOf members, c => members.contains c

/-- The text lies between two one-character texts in dictionary order. -/
def inOrder (low high : Char) : Text → Bool
  | [] => false
  | c :: rest => low ≤ c && (c < high || (c == high && rest.isEmpty))

/-- A class on texts.  A class given by a range compares in dictionary order, one given by
single characters compares for equality, and one given by its members accepts every stretch
of them, the empty one included. -/
def accepts : CharClass → Text → Bool
  | lower, s => inOrder 'a' 'z' s
  | upper, s => inOrder 'A' 'Z' s
  | digit, s => inOrder '0' '9' s
  | alpha, s => inOrder 'a' 'z' s || inOrder 'A' 'Z' s
  | alphaNum, s => inOrder 'a' 'z' s || inOrder 'A' 'Z' s || inOrder '0' '9' s
  | indent, s => s == [' '] || s == ['\t']
  | plainBlank, s => s == [' '] || s == ['\t'] || s == ['\n'] || s == ['\r']
  | keyChar, s => inOrder 'a' 'z' s || inOrder 'A' 'Z' s || inOrder '0' '9' s || s == ['-']
  | nameChar, s =>
    inOrder 'a' 'z' s || inOrder 'A' 'Z' s || inOrder '0' '9' s || occursIn s ['-', '.']
  | oneOf members, s => occursIn s members

end CharClass

end ConfigEditor
