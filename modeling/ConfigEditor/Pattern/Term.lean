set_option autoImplicit false

/-!
# Patterns: terms

The abstract form of a regular expression with back references, look-ahead and
look-behind.  A character is a number: a UTF-16 code unit, or a code point where the
Unicode flag is set.
-/

namespace ConfigEditor.Pattern

/-- The flags of a pattern.  The flag that asks for all matches has no bearing on whether there
is one, so it is not kept. -/
structure Flags where
  ignoreCase : Bool := false
  multiline : Bool := false
  dotAll : Bool := false
  unicode : Bool := false
  sticky : Bool := false
  deriving DecidableEq, Repr, Inhabited

/-- The classes that have an escape of their own. -/
inductive ClassName where
  | digit
  | space
  | word
  deriving DecidableEq, Repr, Inhabited

/-- Part of a character class. -/
inductive ClassItem where
  | range (low high : Nat)
  | named (name : ClassName) (negated : Bool)
  deriving DecidableEq, Repr, Inhabited

/-- A regular expression. -/
inductive Term where
  | empty
  | char (code : Nat)
  | anyChar
  | set (negated : Bool) (items : List ClassItem)
  | lineStart
  | lineEnd
  | boundary (negated : Bool)
  | seq (first second : Term)
  | alt (first second : Term)
  /-- The group with a given index, counted from zero. -/
  | capture (index : Nat) (body : Term)
  | look (ahead negated : Bool) (body : Term)
  /-- Repetition of a body that holds the `groups` groups from `firstGroup` on. -/
  | loop (least : Nat) (most : Option Nat) (greedy : Bool) (firstGroup groups : Nat)
      (body : Term)
  /-- What the group with a given index matched. -/
  | back (index : Nat)
  deriving DecidableEq, Repr, Inhabited

end ConfigEditor.Pattern
