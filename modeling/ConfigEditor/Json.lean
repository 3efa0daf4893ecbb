import ConfigEditor.Number.Decimal
set_option autoImplicit false

/-!
# Structured values

Records, listings and the annotations of log lines hold structured values: null,
Booleans, numbers, texts, lists and fields.  `Json.render` writes a value on one line
without spaces.  Fields keep their order, except that those whose names are indices
(decimal numbers without a leading zero below 2^32 - 1) come first, by number.

`Json.plain` is a value as it stands inside running text: a text is itself, and a list
is its members with commas between them.
-/

namespace ConfigEditor

/-- A structured value. -/
inductive Json where
  | null
  | bool (value : Bool)
  | number (value : Decimal)
  | text (value : Text)
  | list (members : List Json)
  | fields (members : List (Text × Json))
  deriving Repr, Inhabited

namespace Json

/-- The number that a name spells, if the name is an index. -/
def index? (name : Text) : Option Nat :=
  match name with
  | [] => none
  | c :: rest =>
    if (c :: rest).all Char.isDigit && (c != '0' || rest.isEmpty) then
      let n := (c :: rest).foldl (fun acc d => acc * 10 + (d.toNat - 0x30)) 0
      if n < Nat.pow 2 32 - 1 then some n else none
    else none

/-- Fields in the order in which they are written. -/
def writingOrder {α : Type} (members : List (Text × α)) : List (Text × α) :=
  let indexed := members.filter fun m => (index? m.1).isSome
  let others := members.filter fun m => (index? m.1).isNone
  indexed.mergeSort (fun a b => (index? a.1).getD 0 ≤ (index? b.1).getD 0) ++ others

/-- Texts with a comma between each and the next. -/
def commas : List Text → Text
  | [] => []
  | [s] => s
  | s :: rest => s ++ ',' :: commas rest

mutual
/-- A value on one line. -/
def render : Json → Text
  | null => "null".toList
  | bool true => "true".toList
  | bool false => "false".toList
  | number value => (value.finiteText?).getD "null".toList
  | text value => value.quoted
  | list members => '[' :: (commas (renderAll members) ++ [']'])
  | fields members =>
    let written := writingOrder (renderFields members)
    '\x7b' :: (commas (written.map fun m => m.1.quoted ++ ':' :: m.2) ++ ['\x7d'])

/-- Several values, each on one line. -/
def renderAll : List Json → List Text
  | [] => []
  | value :: rest => render value :: renderAll rest

/-- Several fields, the value of each on one line. -/
def renderFields : List (Text × Json) → List (Text × Text)
  | [] => []
  | (name, value) :: rest => (name, render value) :: renderFields rest
end

mutual
/-- A value inside running text. -/
def plain : Json → Text
  | null => "null".toList
  | bool true => "true".toList
  | bool false => "false".toList
  | number value => value.text
  | text value => value
  | list members => commas (plainAll members)
  | fields _ => "[object Object]".toList

/-- Several values inside running text; null is nothing there. -/
def plainAll : List Json → List Text
  | [] => []
  | null :: rest => [] :: plainAll rest
  | value :: rest => plain value :: plainAll rest
end

/-- A text, if the value is one. -/
def text? : Json → Option Text
  | text value => some value
  | _ => none

end Json

/-- Something that was raised: an error with a message, or any other value. -/
inductive Raised where
  | error (message : Text)
  | value (value : Json)
  deriving Repr, Inhabited

namespace Raised

/-- The message of an error, or the value inside running text. -/
def message : Raised → Text
  | error message => message
  | value v => v.plain

/-- Only an error is kept as the cause of a fault. -/
def isCause : Raised → Bool
  | error _ => true
  | value _ => false

end Raised

end ConfigEditor
