set_option autoImplicit false

/-!
# Text: rows of characters and their blanks

Every text of the library is a list of Unicode scalar values, so that a rule about
texts is a recursion on lists.  This module fixes which characters count as blank.
There are three such sets, and they differ on purpose:

* `isIndent`: what may stand before the content of a line;
* `isPlainBlank`: what may stand before a `;` that opens a comment inside a value;
* `isBlank`: white space in the wide sense, which trimming removes and which
  separates the words of a section header.

`isIndent` is contained in `isPlainBlank`, and `isPlainBlank` in `isBlank`.
-/

namespace ConfigEditor

/-- A text is a row of Unicode scalar values. -/
abbrev Text := List Char

namespace Text

/-- Space and tab. -/
def isIndent (c : Char) : Bool := c == ' ' || c == '\t'

/-- Space, tab, line feed and carriage return. -/
def isPlainBlank (c : Char) : Bool := c == ' ' || c == '\t' || c == '\n' || c == '\r'

/-- White space: the ASCII blanks, the Unicode space separators, the line and paragraph
separators and the byte order mark.  U+0085, U+180E and U+200B are not among them. -/
def isBlankCode (n : Nat) : Bool :=
  (0x09 ≤ n && n ≤ 0x0D) || n == 0x20 || n == 0xA0 || n == 0x1680 ||
    (0x2000 ≤ n && n ≤ 0x200A) || n == 0x2028 || n == 0x2029 || n == 0x202F ||
    n == 0x205F || n == 0x3000 || n == 0xFEFF

/-- White space in the wide sense. -/
def isBlank (c : Char) : Bool := isBlankCode c.toNat

/-- The characters that end a line: line feed, carriage return, U+2028 and U+2029. -/
def isLineEndCode (n : Nat) : Bool := n == 0x0A || n == 0x0D || n == 0x2028 || n == 0x2029

/-- The characters that end a line. -/
def isLineEnd (c : Char) : Bool := isLineEndCode c.toNat

theorem isPlainBlank_of_isIndent {c : Char} (h : isIndent c = true) :
    isPlainBlank c = true := by
  simp only [isIndent, Bool.or_eq_true] at h
  rcases h with h | h <;> simp [isPlainBlank, h]

theorem isBlank_of_isPlainBlank {c : Char} (h : isPlainBlank c = true) :
    isBlank c = true := by
  simp only [isPlainBlank, Bool.or_eq_true, beq_iff_eq] at h
  rcases h with ((rfl | rfl) | rfl) | rfl <;> decide

/-! ## Trimming -/

/-- The text without its leading white space. -/
def trimStart (s : Text) : Text := s.dropWhile isBlank

/-- The text without its trailing white space. -/
def trimEnd (s : Text) : Text := (s.reverse.dropWhile isBlank).reverse

/-- The text without white space at either end. -/
def trim (s : Text) : Text := trimEnd (trimStart s)

/-- The text without its leading spaces and tabs. -/
def dropIndent (s : Text) : Text := s.dropWhile isIndent

theorem dropWhile_eq_self {p : Char → Bool} {s : Text} (h : ∀ c ∈ s, p c = false) :
    s.dropWhile p = s := by
  cases s with
  | nil => rfl
  | cons c rest => simp [h c List.mem_cons_self]

/-- A text without white space is trimmed already. -/
theorem trim_eq_self_of_forall {s : Text} (h : ∀ c ∈ s, isBlank c = false) : s.trim = s := by
  have hr : ∀ c ∈ s.reverse, isBlank c = false := fun c hc => h c (List.mem_reverse.mp hc)
  simp [trim, trimStart, trimEnd, dropWhile_eq_self h, dropWhile_eq_self hr]

/-! ## Runs at the end -/

/-- How often the character `symbol` (a text of one character) is repeated at the end of a
text.  Any other text matches no character, so its count is zero. -/
def trailingCount (symbol s : Text) : Nat :=
  (s.reverse.takeWhile fun c => [c] == symbol).length

end Text

end ConfigEditor
