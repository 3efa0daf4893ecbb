import ConfigEditor.Pattern.Build
import ConfigEditor.Pattern.Match
set_option autoImplicit false

/-!
# Patterns

Options can be removed by a pattern: the values that contain a match for it go.
`Pattern.compile?` reads a written pattern, and `Pattern.search` looks for the first
match in a text.  A pattern is searched unanchored, except that a sticky one has to
match at the very start.

Whoever removes options asks no more of an engine for patterns than which texts a
written pattern matches, or why it cannot be read (`PatternEngine`).
-/

namespace ConfigEditor

/-- The texts that a pattern matches. -/
abbrev Matcher := Text → Bool

/-- What makes a matcher of a written pattern, or tells why there is none. -/
abbrev PatternEngine := Text → Except Text Matcher

/-- A compiled pattern: its term, the number of its groups and its flags. -/
structure Pattern where
  term : Pattern.Term
  groups : Nat
  flags : Pattern.Flags
  deriving DecidableEq, Repr, Inhabited

namespace Pattern

/-- The characters by which a pattern with given flags reads and matches. -/
def charsOf (flags : Flags) (text : Text) : List Nat :=
  if flags.unicode then text.codePoints else text.units

/-- Reads a written pattern; nothing if it is malformed. -/
def compile? (flags : Flags) (source : Text) : Option Pattern :=
  match Piece.read flags.unicode (charsOf flags source) with
  | none => none
  | some pieces =>
    match build? flags.unicode pieces with
    | none => none
    | some (term, groups) => some ⟨term, groups, flags⟩

/-- Flags named by their letters; nothing if a letter is unknown or there twice. -/
def flags? (letters : Text) : Option Flags :=
  if decide letters.Nodup && letters.all (['d', 'g', 'i', 'm', 's', 'u', 'y'].contains ·) then
    some
      { ignoreCase := letters.contains 'i'
        multiline := letters.contains 'm'
        dotAll := letters.contains 's'
        unicode := letters.contains 'u'
        sticky := letters.contains 'y' }
  else none

/-- The first position from `start` on, of `count` positions, where the pattern matches. -/
def searchFrom (pattern : Pattern) (subject : Subject) : (count start : Nat) → Option Nat
  | 0, _ => none
  | count + 1, start =>
    if pattern.term.matchesAt pattern.groups subject start then some start
    else searchFrom pattern subject count (start + 1)

/-- Position of the first match in a text. -/
def search (pattern : Pattern) (text : Text) : Option Nat :=
  let subject : Subject := ⟨(charsOf pattern.flags text).toArray, pattern.flags⟩
  pattern.searchFrom subject (if pattern.flags.sticky then 1 else subject.chars.size + 1) 0

/-- The text contains a match. -/
def occursIn (pattern : Pattern) (text : Text) : Bool := (pattern.search text).isSome

/-- The engine that reads patterns without flags. -/
def engine : PatternEngine := fun source =>
  match compile? {} source with
  | some pattern => .ok pattern.occursIn
  | none => .error ("Invalid regular expression: /".toList ++ source ++ ['/'])

end Pattern

end ConfigEditor
