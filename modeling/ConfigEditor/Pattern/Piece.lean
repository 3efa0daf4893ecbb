import ConfigEditor.Pattern.Term
import ConfigEditor.Text.Units
set_option autoImplicit false

/-!
# Patterns: the pieces of a written pattern

A written pattern is a row of pieces: single terms, opening and closing brackets of
groups, bars and quantifiers.  `Piece.read` splits a pattern into them and refuses
what is no piece; whether the pieces fit together is decided when a term is built.

Without the Unicode flag the reading is lenient: a brace that opens no quantifier, a
closing bracket and a closing brace stand for themselves, a backslash before a letter
without a meaning yields the letter, and a backslash before digits that number no
group is an octal escape.  With the Unicode flag all of these are refused.
-/

namespace ConfigEditor.Pattern

/-- What an opening bracket opens. -/
inductive GroupKind where
  | capture (name : Option (List Nat))
  | plain
  | look (ahead negated : Bool)
  deriving DecidableEq, Repr, Inhabited

/-- A piece of a written pattern. -/
inductive Piece where
  /-- A term, and whether a quantifier may follow it. -/
  | term (term : Term) (quantifiable : Bool)
  /-- A reference to a group by its name. -/
  | named (name : List Nat)
  | opening (kind : GroupKind)
  | closing
  | bar
  | quantifier (least : Nat) (most : Option Nat) (greedy : Bool)
  deriving DecidableEq, Repr, Inhabited

/-- What reading an escape depends on. -/
structure ReadContext where
  unicode : Bool
  /-- Number of capturing groups in the whole pattern. -/
  groups : Nat
  /-- Some group of the pattern has a name. -/
  hasNames : Bool
  deriving DecidableEq, Repr, Inhabited

namespace Piece

/-! ## Characters of a pattern -/

/-- The number of a character. -/
def code (c : Char) : Nat := c.toNat

/-- Value of a decimal digit. -/
def digit? (n : Nat) : Option Nat := if 0x30 ≤ n ∧ n ≤ 0x39 then some (n - 0x30) else none

/-- Value of an octal digit. -/
def octal? (n : Nat) : Option Nat := if 0x30 ≤ n ∧ n ≤ 0x37 then some (n - 0x30) else none

/-- Value of a hexadecimal digit. -/
def hex? (n : Nat) : Option Nat :=
  if 0x30 ≤ n ∧ n ≤ 0x39 then some (n - 0x30)
  else if 0x41 ≤ n ∧ n ≤ 0x46 then some (n - 0x41 + 10)
  else if 0x61 ≤ n ∧ n ≤ 0x66 then some (n - 0x61 + 10)
  else none

/-- A letter of ASCII. -/
def isLetter (n : Nat) : Bool := (0x41 ≤ n && n ≤ 0x5A) || (0x61 ≤ n && n ≤ 0x7A)

/-- The characters with a meaning of their own; a slash counts as one after a backslash. -/
def isMeta (n : Nat) : Bool := ("^$\\.*+?()[]\x7b\x7d|/".toList.map code).contains n

/-- The digits at the start, read as a decimal number, and the rest. -/
def readDecimal (acc : Nat) : List Nat → Nat × List Nat
  | [] => (acc, [])
  | n :: rest =>
    match digit? n with
    | some d => readDecimal (acc * 10 + d) rest
    | none => (acc, n :: rest)

/-- A fixed number of hexadecimal digits. -/
def readHex : (count acc : Nat) → List Nat → Option (Nat × List Nat)
  | 0, acc, rest => some (acc, rest)
  | count + 1, acc, n :: rest =>
    match hex? n with
    | some d => readHex count (acc * 16 + d) rest
    | none => none
  | _ + 1, _, [] => none

/-- Hexadecimal digits up to a closing brace; `seen` tells whether there was one. -/
def readBracedHex (seen : Bool) (acc : Nat) : List Nat → Option (Nat × List Nat)
  | [] => none
  | n :: rest =>
    if n == code '\x7d' then if seen then some (acc, rest) else none
    else
      match hex? n with
      | some d => if acc * 16 + d > 0x10FFFF then none else readBracedHex true (acc * 16 + d) rest
      | none => none

/-- An octal escape after its first digit: up to two more digits while the value stays below
256. -/
def readOctal (first : Nat) : List Nat → Nat × List Nat
  | [] => (first, [])
  | n :: rest =>
    match octal? n with
    | none => (first, n :: rest)
    | some d =>
      let two := first * 8 + d
      if two < 32 then
        match rest with
        | [] => (two, [])
        | m :: tail =>
          match octal? m with
          | none => (two, m :: tail)
          | some e => (two * 8 + e, tail)
      else (two, rest)

/-! ## Escapes -/

/-- The code point of a Unicode escape after its letter; a pair of surrogates written as two
escapes is one code point. -/
def readUnicodeEscape (rest : List Nat) : Option (Nat × List Nat) :=
  match rest with
  | [] => none
  | n :: tail =>
    if n == code '\x7b' then readBracedHex false 0 tail
    else
      match readHex 4 0 rest with
      | none => none
      | some (lead, after) =>
        if Text.isLeadUnit lead then
          match after with
          | b :: u :: more =>
            if b == code '\\' && u == code 'u' then
              match readHex 4 0 more with
              | some (trail, last) =>
                if Text.isTrailUnit trail then some (Text.joinUnits lead trail, last)
                else some (lead, after)
              | none => some (lead, after)
            else some (lead, after)
          | _ => some (lead, after)
        else some (lead, after)

/-- The class that a letter after a backslash names. -/
def namedClass? (n : Nat) : Option ClassItem :=
  if n == code 'd' then some (.named .digit false)
  else if n == code 'D' then some (.named .digit true)
  else if n == code 's' then some (.named .space false)
  else if n == code 'S' then some (.named .space true)
  else if n == code 'w' then some (.named .word false)
  else if n == code 'W' then some (.named .word true)
  else none

/-- The character of an escape that is neither a class nor digits, given what follows the
backslash.  `inClass` widens what may be escaped and what may follow the control letter. -/
def readCharEscape (context : ReadContext) (inClass : Bool) :
    List Nat → Option (Nat × List Nat)
  | [] => none
  | n :: rest =>
    if n == code 't' then some (0x09, rest)
    else if n == code 'n' then some (0x0A, rest)
    else if n == code 'v' then some (0x0B, rest)
    else if n == code 'f' then some (0x0C, rest)
    else if n == code 'r' then some (0x0D, rest)
    else if n == code 'c' then
      match rest with
      | m :: tail =>
        if isLetter m ||
            (inClass && !context.unicode && ((digit? m).isSome || m == code '_')) then
          some (m % 32, tail)
        else if context.unicode then none
        else some (code '\\', n :: rest)
      | [] => if context.unicode then none else some (code '\\', n :: rest)
    else if n == code 'x' then
      match readHex 2 0 rest with
      | some found => some found
      | none => if context.unicode then none else some (n, rest)
    else if n == code 'u' then
      if context.unicode then readUnicodeEscape rest
      else
        match readHex 4 0 rest with
        | some found => some found
        | none => some (n, rest)
    else if context.unicode then
      if isMeta n || (inClass && n == code '-') then some (n, rest) else none
    else if n == code 'k' && context.hasNames then none
    else some (n, rest)

/-- The first character of a group name. -/
def isNameStart (n : Nat) : Bool :=
  isLetter n || n == code '$' || n == code '_' || (0xAA ≤ n && !Text.isBlankCode n)

/-- A further character of a group name. -/
def isNamePart (n : Nat) : Bool :=
  isNameStart n || (digit? n).isSome

/-- A group name up to its closing angle bracket. -/
def readName (rest : List Nat) : Option (List Nat × List Nat) :=
  match rest.takeWhile (· != code '>'), rest.dropWhile (· != code '>') with
  | first :: more, _ :: after =>
    if isNameStart first && more.all isNamePart then some (first :: more, after) else none
  | _, _ => none

/-- The piece of an escape outside a class, given what follows the backslash. -/
def readEscape (context : ReadContext) (input : List Nat) : Option (Piece × List Nat) :=
  match input with
  | [] => none
  | n :: rest =>
    if n == code 'b' then some (.term (.boundary false) false, rest)
    else if n == code 'B' then some (.term (.boundary true) false, rest)
    else if n == code 'k' && (context.unicode || context.hasNames) then
      match rest with
      | m :: tail =>
        if m == code '<' then (readName tail).map fun (name, after) => (.named name, after)
        else none
      | [] => none
    else
      match digit? n with
      | some 0 =>
        if context.unicode then
          match rest with
          | m :: _ => if (digit? m).isSome then none else some (.term (.char 0) true, rest)
          | [] => some (.term (.char 0) true, rest)
        else
          let (value, after) := readOctal 0 rest
          some (.term (.char value) true, after)
      | some d =>
        let (number, after) := readDecimal 0 input
        if number ≤ context.groups then some (.term (.back (number - 1)) true, after)
        else if context.unicode then none
        else if d < 8 then
          let (value, after) := readOctal d rest
          some (.term (.char value) true, after)
        else some (.term (.char n) true, rest)
      | none =>
        match namedClass? n with
        | some item => some (.term (.set false [item]) true, rest)
        | none =>
          (readCharEscape context false input).map fun (value, after) =>
            (.term (.char value) true, after)

/-! ## Classes -/

/-- One member of a class: a character, or a named class. -/
def readClassAtom (context : ReadContext) : List Nat → Option (ClassItem × List Nat)
  | [] => none
  | n :: rest =>
    if n == code '\\' then
      match rest with
      | [] => none
      | m :: tail =>
        if m == code 'b' then some (.range 0x08 0x08, tail)
        else
          match digit? m with
          | some d =>
            if context.unicode then
              if d == 0 && !(tail.head?.any fun e => (digit? e).isSome) then
                some (.range 0 0, tail)
              else none
            else if d < 8 then
              let (value, after) := readOctal d tail
              some (.range value value, after)
            else some (.range m m, tail)
          | none =>
            match namedClass? m with
            | some item => some (item, tail)
            | none =>
              (readCharEscape context true rest).map fun (value, after) =>
                (.range value value, after)
    else some (.range n n, rest)

/-- The parts that two members with a hyphen between them make: a range of characters, or, if
one of them is a named class and the reading is lenient, both of them and the hyphen. -/
def joinAtoms (context : ReadContext) (low high : ClassItem) : Option (List ClassItem) :=
  match low, high with
  | .range a _, .range b _ => if a ≤ b then some [.range a b] else none
  | _, _ =>
    if context.unicode then none else some [low, .range (code '-') (code '-'), high]

/-- The parts of a class up to its closing bracket.  Every round reads at least one character,
so `rounds` bounds the number of characters left. -/
def readClass (context : ReadContext) :
    (rounds : Nat) → List Nat → Option (List ClassItem × List Nat)
  | 0, _ => none
  | rounds + 1, input =>
    match input with
    | [] => none
    | n :: rest =>
      if n == code ']' then some ([], rest)
      else
        match readClassAtom context input with
        | none => none
        | some (low, after) =>
          match after with
          | h :: next :: more =>
            if h == code '-' && next != code ']' then
              match readClassAtom context (next :: more) with
              | none => none
              | some (high, last) =>
                match joinAtoms context low high, readClass context rounds last with
                | some items, some (others, final) => some (items ++ others, final)
                | _, _ => none
            else (readClass context rounds after).map fun (others, final) =>
              (low :: others, final)
          | _ => (readClass context rounds after).map fun (others, final) =>
              (low :: others, final)

/-- A class after its opening bracket. -/
def readSet (context : ReadContext) (input : List Nat) : Option (Piece × List Nat) :=
  match input with
  | [] => none
  | n :: rest =>
    let negated := n == code '^'
    let body := if negated then rest else input
    (readClass context (body.length + 1) body).map fun (items, after) =>
      (.term (.set negated items) true, after)

/-! ## Groups and quantifiers -/

/-- The kind of a group after its opening bracket. -/
def readOpening : List Nat → Option (Piece × List Nat)
  | q :: kind :: rest =>
    if q != code '?' then some (.opening (.capture none), q :: kind :: rest)
    else if kind == code ':' then some (.opening .plain, rest)
    else if kind == code '=' then some (.opening (.look true false), rest)
    else if kind == code '!' then some (.opening (.look true true), rest)
    else if kind == code '<' then
      match rest with
      | [] => none
      | n :: tail =>
        if n == code '=' then some (.opening (.look false false), tail)
        else if n == code '!' then some (.opening (.look false true), tail)
        else (readName rest).map fun (name, after) => (.opening (.capture (some name)), after)
    else none
  | [q] => if q == code '?' then none else some (.opening (.capture none), [q])
  | [] => some (.opening (.capture none), [])

/-- A quantifier and the question mark that makes it lazy. -/
def withGreed (least : Nat) (most : Option Nat) (rest : List Nat) : Piece × List Nat :=
  match rest with
  | n :: tail =>
    if n == code '?' then (.quantifier least most false, tail)
    else (.quantifier least most true, rest)
  | [] => (.quantifier least most true, [])

/-- The bounds of a quantifier after its opening brace. -/
def readBounds (input : List Nat) : Option (Nat × Option Nat × List Nat) :=
  match input with
  | [] => none
  | n :: _ =>
    if (digit? n).isNone then none
    else
      let (least, after) := readDecimal 0 input
      match after with
      | [] => none
      | m :: rest =>
        if m == code '\x7d' then some (least, some least, rest)
        else if m == code ',' then
          match rest with
          | [] => none
          | d :: tail =>
            if d == code '\x7d' then some (least, none, tail)
            else if (digit? d).isNone then none
            else
              match readDecimal 0 rest with
              | (most, e :: last) =>
                if e == code '\x7d' then some (least, some most, last) else none
              | (_, []) => none
        else none

/-- A brace: a quantifier whose bounds are in order, or, if it opens none and the reading is
lenient, itself. -/
def readBrace (context : ReadContext) (rest : List Nat) : Option (Piece × List Nat) :=
  match readBounds rest with
  | some (least, most, after) =>
    if most.any (· < least) then none else some (withGreed least most after)
  | none => if context.unicode then none else some (.term (.char (code '\x7b')) true, rest)

/-! ## Whole patterns -/

/-- The first piece of a pattern that is not empty. -/
def readOne (context : ReadContext) (n : Nat) (rest : List Nat) : Option (Piece × List Nat) :=
  if n == code '^' then some (.term .lineStart false, rest)
  else if n == code '$' then some (.term .lineEnd false, rest)
  else if n == code '.' then some (.term .anyChar true, rest)
  else if n == code '|' then some (.bar, rest)
  else if n == code ')' then some (.closing, rest)
  else if n == code '(' then readOpening rest
  else if n == code '*' then some (withGreed 0 none rest)
  else if n == code '+' then some (withGreed 1 none rest)
  else if n == code '?' then some (withGreed 0 (some 1) rest)
  else if n == code '\x7b' then readBrace context rest
  else if n == code '[' then readSet context rest
  else if n == code '\\' then readEscape context rest
  else if context.unicode && (n == code ']' || n == code '\x7d') then none
  else some (.term (.char n) true, rest)

/-- The pieces of a pattern.  Every round reads at least one character, so `rounds` bounds the
number of characters left. -/
def readAll (context : ReadContext) : (rounds : Nat) → List Nat → Option (List Piece)
  | _, [] => some []
  | 0, _ :: _ => none
  | rounds + 1, n :: rest =>
    match readOne context n rest with
    | none => none
    | some (piece, after) => (readAll context rounds after).map (piece :: ·)

/-- Number of capturing groups of a pattern and whether one has a name, found without reading
the pattern: opening brackets that are neither escaped nor in a class. -/
def countGroups (inClass : Bool) : List Nat → Nat × Bool
  | [] => (0, false)
  | n :: rest =>
    if n == code '\\' then
      match rest with
      | [] => (0, false)
      | _ :: after => countGroups inClass after
    else if inClass then countGroups (n != code ']') rest
    else if n == code '[' then countGroups true rest
    else if n == code '(' then
      let (groups, hasNames) := countGroups false rest
      match rest with
      | q :: a :: b :: _ =>
        if q != code '?' then (groups + 1, hasNames)
        else if a == code '<' && b != code '=' && b != code '!' then (groups + 1, true)
        else (groups, hasNames)
      | q :: _ => if q != code '?' then (groups + 1, hasNames) else (groups, hasNames)
      | [] => (groups + 1, hasNames)
    else countGroups false rest

/-- The pieces of a pattern, or nothing if some stretch of it is no piece. -/
def read (unicode : Bool) (input : List Nat) : Option (List Piece) :=
  let (groups, hasNames) := countGroups false input
  readAll ⟨unicode, groups, hasNames⟩ input.length input

end Piece

end ConfigEditor.Pattern
