import ConfigEditor.Pattern.Piece
set_option autoImplicit false

/-!
# Patterns: from pieces to a term

The pieces of a pattern are fitted together from left to right.  A `Frame` is a group
that is still open: its finished alternatives and the items of the alternative at
hand.  A quantifier applies to the item before it, which has to be there and to allow
one; group names are used once each; a name that is referred to has to be there.
-/

namespace ConfigEditor.Pattern

/-- A term of an alternative, whether a quantifier may follow it, and how many groups were
opened before it. -/
structure Item where
  term : Term
  quantifiable : Bool
  groupsBefore : Nat
  deriving DecidableEq, Repr, Inhabited

/-- What an open bracket will become when it is closed. -/
inductive FrameKind where
  | capture (index : Nat)
  | plain
  | look (ahead negated : Bool)
  deriving DecidableEq, Repr, Inhabited

/-- An open group; alternatives and items are in reverse order. -/
structure Frame where
  kind : FrameKind
  groupsBefore : Nat
  alternatives : List Term
  items : List Item
  deriving DecidableEq, Repr, Inhabited

namespace Frame

/-- The items at hand as one term. -/
def sequence (frame : Frame) : Term :=
  frame.items.foldl (fun rest item => match rest with
    | .empty => item.term
    | _ => .seq item.term rest) .empty

/-- All alternatives as one term. -/
def body (frame : Frame) : Term :=
  frame.alternatives.foldl (fun rest alternative => .alt alternative rest) frame.sequence

/-- The term of a closed group. -/
def close (frame : Frame) : Term :=
  match frame.kind with
  | .capture index => .capture index frame.body
  | .plain => frame.body
  | .look ahead negated => .look ahead negated frame.body

/-- A quantifier may follow the closed group.  Behind a look-behind it never may, behind a
look-ahead only without the Unicode flag. -/
def closedQuantifiable (frame : Frame) (unicode : Bool) : Bool :=
  match frame.kind with
  | .look ahead _ => ahead && !unicode
  | _ => true

/-- One more item at the end. -/
def push (frame : Frame) (item : Item) : Frame := { frame with items := item :: frame.items }

end Frame

/-- The group at hand, the groups around it from the inside out, and the number of capturing
groups opened so far. -/
structure Builder where
  current : Frame
  outer : List Frame
  groups : Nat
  deriving DecidableEq, Repr, Inhabited

namespace Builder

/-- Nothing read yet. -/
def start : Builder := ⟨⟨.plain, 0, [], []⟩, [], 0⟩

/-- Adds an item to the group at hand. -/
def push (b : Builder) (term : Term) (quantifiable : Bool) (groupsBefore : Nat) : Builder :=
  { b with current := b.current.push ⟨term, quantifiable, groupsBefore⟩ }

/-- Opens a group. -/
def openGroup (b : Builder) : GroupKind → Builder
  | .capture _ => ⟨⟨.capture b.groups, b.groups, [], []⟩, b.current :: b.outer, b.groups + 1⟩
  | .plain => ⟨⟨.plain, b.groups, [], []⟩, b.current :: b.outer, b.groups⟩
  | .look ahead negated =>
    ⟨⟨.look ahead negated, b.groups, [], []⟩, b.current :: b.outer, b.groups⟩

/-- Puts a quantifier on the last item. -/
def quantify (b : Builder) (least : Nat) (most : Option Nat) (greedy : Bool) :
    Option Builder :=
  match b.current.items with
  | [] => none
  | item :: items =>
    if item.quantifiable then
      let term := Term.loop least most greedy item.groupsBefore (b.groups - item.groupsBefore)
        item.term
      some
        { b with current :=
            { b.current with items := ⟨term, false, item.groupsBefore⟩ :: items } }
    else none

/-- Takes one piece.  `names` are the names of the groups in order, those without a name
included. -/
def step (unicode : Bool) (names : List (Option (List Nat))) (b : Builder) :
    Piece → Option Builder
  | .term term quantifiable => some (b.push term quantifiable b.groups)
  | .named name =>
    match names.idxOf? (some name) with
    | some index => some (b.push (.back index) true b.groups)
    | none => none
  | .opening kind => some (b.openGroup kind)
  | .closing =>
    match b.outer with
    | [] => none
    | frame :: frames =>
      let item : Item :=
        ⟨b.current.close, b.current.closedQuantifiable unicode, b.current.groupsBefore⟩
      some ⟨frame.push item, frames, b.groups⟩
  | .bar =>
    some
      { b with current :=
          { b.current with
            alternatives := b.current.sequence :: b.current.alternatives
            items := [] } }
  | .quantifier least most greedy => b.quantify least most greedy

/-- Takes all pieces. -/
def run (unicode : Bool) (names : List (Option (List Nat))) (b : Builder) :
    List Piece → Option Builder
  | [] => some b
  | piece :: pieces =>
    match b.step unicode names piece with
    | some next => run unicode names next pieces
    | none => none

end Builder

/-- The names of the capturing groups in order. -/
def groupNames (pieces : List Piece) : List (Option (List Nat)) :=
  pieces.filterMap fun piece =>
    match piece with
    | .opening (.capture name) => some name
    | _ => none

/-- No name is used twice. -/
def namesDiffer (names : List (Option (List Nat))) : Bool :=
  decide (names.filterMap id).Nodup

/-- The term that a row of pieces spells and the number of its groups. -/
def build? (unicode : Bool) (pieces : List Piece) : Option (Term × Nat) :=
  let names := groupNames pieces
  if namesDiffer names then
    match Builder.start.run unicode names pieces with
    | some b => if b.outer.isEmpty then some (b.current.body, b.groups) else none
    | none => none
  else none

end ConfigEditor.Pattern
