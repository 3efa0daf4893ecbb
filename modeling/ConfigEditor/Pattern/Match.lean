import ConfigEditor.Pattern.Term
import ConfigEditor.Text.Blank
import ConfigEditor.Text.CaseTable
set_option autoImplicit false

/-!
# Patterns: matching

Matching is by backtracking.  A matcher takes a state (a position and what the groups
have captured) and a continuation that tries the rest of the pattern from a later
state; it tries its own choices in order and answers the first final state that the
continuation accepts.  `Term.matcher` gives every term its matcher by recursion on the
term, in either direction, for a look-behind reads backwards.

Repetition needs a bound of its own to be a total function.  After the required
rounds, a round that does not move fails, so a subject of `n` characters allows at
most `n` of them, and `least + n + 1` rounds are never used up.
-/

namespace ConfigEditor.Pattern

/-- The characters of a text that is matched, and the flags of the pattern. -/
structure Subject where
  chars : Array Nat
  flags : Flags
  deriving Repr, Inhabited

/-- A position in the subject and the stretch that each group captured last. -/
structure MatchState where
  pos : Nat
  captures : List (Option (Nat × Nat))
  deriving DecidableEq, Repr, Inhabited

/-- What remains to be matched from a state on. -/
abbrev Continuation := MatchState → Option MatchState

/-- Matches from a state, then runs the continuation. -/
abbrev Matcher := MatchState → Continuation → Option MatchState

namespace Subject

/-- The representative of all characters that count as the same. -/
def canonical (subject : Subject) (code : Nat) : Nat :=
  if subject.flags.ignoreCase then
    Text.CaseRun.map (if subject.flags.unicode then Text.foldRuns else Text.upperRuns) code
  else code

/-- All characters that count as the same as a given one. -/
def variants (subject : Subject) (code : Nat) : List Nat :=
  if subject.flags.ignoreCase then
    let representative := subject.canonical code
    let runs := if subject.flags.unicode then Text.foldRuns else Text.upperRuns
    representative :: Text.CaseRun.preimages runs representative
  else [code]

/-- Letters, digits and the underscore of ASCII; where case does not count and the Unicode flag
is set, also the two other characters that fold to such a letter. -/
def isWord (subject : Subject) (code : Nat) : Bool :=
  (0x30 ≤ code && code ≤ 0x39) || (0x41 ≤ code && code ≤ 0x5A) || code == 0x5F ||
    (0x61 ≤ code && code ≤ 0x7A) ||
    (subject.flags.ignoreCase && subject.flags.unicode && (code == 0x17F || code == 0x212A))

/-- Membership in a class with an escape of its own. -/
def inNamed (subject : Subject) (code : Nat) : ClassName → Bool
  | .digit => 0x30 ≤ code && code ≤ 0x39
  | .space => Text.isBlankCode code
  | .word => subject.isWord code

/-- Membership in a part of a character class. -/
def inItem (subject : Subject) (code : Nat) : ClassItem → Bool
  | .range low high => low ≤ code && code ≤ high
  | .named name negated => subject.inNamed code name != negated

/-- Membership in a character class: some variant of the character lies in some part. -/
def inSet (subject : Subject) (negated : Bool) (items : List ClassItem) (code : Nat) : Bool :=
  ((subject.variants code).any fun v => items.any (subject.inItem v)) != negated

/-- The character next to a position in reading direction. -/
def next? (subject : Subject) (forward : Bool) (pos : Nat) : Option Nat :=
  if forward then subject.chars[pos]?
  else if pos = 0 then none else subject.chars[pos - 1]?

/-- The position after one character in reading direction. -/
def advance (forward : Bool) (pos : Nat) : Nat := if forward then pos + 1 else pos - 1

/-- Matches one character that satisfies a test. -/
def one (subject : Subject) (forward : Bool) (test : Nat → Bool) : Matcher := fun s k =>
  match subject.next? forward s.pos with
  | some code => if test code then k { s with pos := advance forward s.pos } else none
  | none => none

/-- Matches without moving if a test on the position holds. -/
def assert (test : Nat → Bool) : Matcher := fun s k => if test s.pos then k s else none

/-- A line starts at a position. -/
def atLineStart (subject : Subject) (pos : Nat) : Bool :=
  pos == 0 ||
    (subject.flags.multiline && (subject.next? false pos).any Text.isLineEndCode)

/-- A line ends at a position. -/
def atLineEnd (subject : Subject) (pos : Nat) : Bool :=
  pos == subject.chars.size ||
    (subject.flags.multiline && (subject.next? true pos).any Text.isLineEndCode)

/-- Exactly one of the characters around a position belongs to a word. -/
def atBoundary (subject : Subject) (pos : Nat) : Bool :=
  (subject.next? false pos).any subject.isWord != (subject.next? true pos).any subject.isWord

/-- The characters of a stretch of the subject. -/
def stretch (subject : Subject) (start stop : Nat) : List Nat :=
  (subject.chars.extract start stop).toList

/-- Matches again what a group captured; a group that captured nothing matches emptily. -/
def repeatGroup (subject : Subject) (forward : Bool) (index : Nat) : Matcher := fun s k =>
  match (s.captures[index]?).join with
  | none => k s
  | some (start, stop) =>
    let size := stop - start
    if forward then
      if s.pos + size ≤ subject.chars.size &&
          (subject.stretch start stop).map subject.canonical ==
            (subject.stretch s.pos (s.pos + size)).map subject.canonical then
        k { s with pos := s.pos + size }
      else none
    else
      if size ≤ s.pos &&
          (subject.stretch start stop).map subject.canonical ==
            (subject.stretch (s.pos - size) s.pos).map subject.canonical then
        k { s with pos := s.pos - size }
      else none

end Subject

namespace MatchState

/-- Forgets what the groups from an index on captured. -/
def forget (s : MatchState) (firstGroup groups : Nat) : MatchState where
  pos := s.pos
  captures := s.captures.mapIdx fun i c =>
    if firstGroup ≤ i && i < firstGroup + groups then none else c

/-- Records what a group captured. -/
def record (s : MatchState) (index start stop : Nat) : MatchState where
  pos := s.pos
  captures := s.captures.set index (some (start, stop))

end MatchState

/-- Repeats a matcher, at most `rounds` times.  Once the required rounds are done, a round has
to move. -/
def repeatMatcher (body : Matcher) (greedy : Bool) (firstGroup groups : Nat) :
    (rounds least : Nat) → (most : Option Nat) → Matcher
  | 0, _, _ => fun _ _ => none
  | rounds + 1, least, most => fun s k =>
    if most = some 0 then k s
    else
      let again : Continuation := fun t =>
        if least = 0 ∧ t.pos = s.pos then none
        else
          repeatMatcher body greedy firstGroup groups rounds (least - 1) (most.map (· - 1)) t k
      let inner := s.forget firstGroup groups
      if least ≠ 0 then body inner again
      else if greedy then
        match body inner again with
        | some final => some final
        | none => k s
      else
        match k s with
        | some final => some final
        | none => body inner again

/-- The matcher of a term in a reading direction. -/
def Term.matcher (subject : Subject) (forward : Bool) : Term → Matcher
  | .empty => fun s k => k s
  | .char code =>
    subject.one forward fun c => subject.canonical c == subject.canonical code
  | .anyChar => subject.one forward fun c => subject.flags.dotAll || !Text.isLineEndCode c
  | .set negated items => subject.one forward (subject.inSet negated items)
  | .lineStart => Subject.assert subject.atLineStart
  | .lineEnd => Subject.assert subject.atLineEnd
  | .boundary negated => Subject.assert fun pos => subject.atBoundary pos != negated
  | .seq first second =>
    let m := first.matcher subject forward
    let n := second.matcher subject forward
    if forward then fun s k => m s fun t => n t k else fun s k => n s fun t => m t k
  | .alt first second =>
    let m := first.matcher subject forward
    let n := second.matcher subject forward
    fun s k =>
      match m s k with
      | some final => some final
      | none => n s k
  | .capture index body =>
    let m := body.matcher subject forward
    fun s k => m s fun t =>
      k (if forward then t.record index s.pos t.pos else t.record index t.pos s.pos)
  | .look ahead negated body =>
    let m := body.matcher subject ahead
    fun s k =>
      match m s some with
      | some t => if negated then none else k { t with pos := s.pos }
      | none => if negated then k s else none
  | .loop least most greedy firstGroup groups body =>
    let m := body.matcher subject forward
    repeatMatcher m greedy firstGroup groups (least + subject.chars.size + 1) least most
  | .back index => subject.repeatGroup forward index

/-- The term matches some stretch of the subject that starts at a position. -/
def Term.matchesAt (term : Term) (groups : Nat) (subject : Subject) (pos : Nat) : Bool :=
  (term.matcher subject true ⟨pos, List.replicate groups none⟩ some).isSome

end ConfigEditor.Pattern
