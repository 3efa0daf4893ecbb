import ConfigEditor.Text.CaseTable
import ConfigEditor.Text.Blank
set_option autoImplicit false

/-!
# Text: lower-casing

Full Unicode lower-casing of a text, independent of any locale.  It is the
one-to-one mapping of `lowerRuns` with two exceptions: U+0130 becomes an `i` and a
combining dot, and a capital sigma becomes a final sigma where it ends a word, that
is where the nearest character before it that is not case-ignorable is cased and the
nearest one after it is not.

On ASCII letters lower-casing is the usual one (`lowerChar_eq_toLower`).  It is not
true that only letters of ASCII become letters of ASCII: U+212A, the Kelvin sign,
becomes `k`.
-/

namespace ConfigEditor.Text

/-- One-to-one lower case of a character. -/
def lowerChar (c : Char) : Char :=
  if c.toNat < 0x80 then c.toLower else Char.ofNat (CaseRun.map lowerRuns c.toNat)

theorem lowerChar_eq_toLower {c : Char} (h : c.toNat < 0x80) : lowerChar c = c.toLower := by
  simp [lowerChar, h]

/-- Reading outwards from a position, the first character that is not case-ignorable is
cased. -/
def reachesCased (s : Text) : Bool :=
  match s.dropWhile fun c => inRanges caseIgnorableRanges c.toNat with
  | c :: _ => inRanges casedRanges c.toNat
  | [] => false

/-- Lower case of one character between the reversed text before it and the text after it. -/
def lowerBetween (before : Text) (c : Char) (after : Text) : Text :=
  if c == '\u03A3' then
    if reachesCased before && !reachesCased after then ['\u03C2'] else ['\u03C3']
  else if c == '\u0130' then ['i', '\u0307']
  else [lowerChar c]

/-- Lower case of a text that follows the reversed text `before`. -/
def lowerFrom (before : Text) : Text → Text
  | [] => []
  | c :: rest => lowerBetween before c rest ++ lowerFrom (c :: before) rest

/-- Lower case of a text. -/
def lower (s : Text) : Text := lowerFrom [] s

theorem lowerBetween_of_ascii {c : Char} (h : c.toNat < 0x80) (before after : Text) :
    lowerBetween before c after = [c.toLower] := by
  have h1 : c ≠ '\u03A3' := by rintro rfl; exact absurd h (by decide)
  have h2 : c ≠ '\u0130' := by rintro rfl; exact absurd h (by decide)
  simp [lowerBetween, h1, h2, lowerChar_eq_toLower h]

/-- On ASCII texts lower-casing works character by character. -/
theorem lowerFrom_of_ascii {s : Text} (h : ∀ c ∈ s, c.toNat < 0x80) (before : Text) :
    lowerFrom before s = s.map Char.toLower := by
  induction s generalizing before with
  | nil => rfl
  | cons c rest ih =>
    have hc := h c List.mem_cons_self
    have hrest := ih (fun d hd => h d (List.mem_cons_of_mem _ hd)) (c :: before)
    simp [lowerFrom, lowerBetween_of_ascii hc, hrest]

theorem lower_of_ascii {s : Text} (h : ∀ c ∈ s, c.toNat < 0x80) :
    lower s = s.map Char.toLower :=
  lowerFrom_of_ascii h []

end ConfigEditor.Text
