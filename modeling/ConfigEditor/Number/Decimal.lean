import ConfigEditor.Number.Binary64
import ConfigEditor.Text.Quoted
set_option autoImplicit false

/-!
# Numbers: decimal notation

A decimal number as it is written in a record: a sign, an integer and a power of ten.
Its text (`Decimal.text`) is that of the 64-bit floating point number nearest to it:
the shortest digits that read back, positional from `1e-6` up to `1e21` and in
exponent notation outside.  Zero has no sign.
-/

namespace ConfigEditor

/-- The number `digits * 10 ^ exponent`, negative if so marked. -/
structure Decimal where
  negative : Bool
  digits : Nat
  exponent : Int
  deriving DecidableEq, Repr, Inhabited

namespace Decimal

/-- A natural number without its trailing zeros and how many there were; at most `rounds` of
them are taken. -/
def dropZeros : (rounds n : Nat) → Nat × Nat
  | 0, n => (n, 0)
  | rounds + 1, n =>
    if n ≠ 0 ∧ n % 10 = 0 then
      let (m, count) := dropZeros rounds (n / 10)
      (m, count + 1)
    else (n, 0)

/-- An exponent with its sign. -/
def exponentText (e : Int) : Text :=
  (if e < 0 then '-' else '+') :: Text.decimal e.natAbs

/-- The text of `digits * 10 ^ grid` for a positive number. -/
def layout (digits : Nat) (grid : Int) : Text :=
  let (n, zeros) := dropZeros 20 digits
  let ds := Text.decimal n
  let point : Int := ds.length + grid + zeros
  if (ds.length : Int) ≤ point ∧ point ≤ 21 then
    ds ++ List.replicate (point - ds.length).toNat '0'
  else if 0 < point ∧ point ≤ 21 then
    ds.take point.toNat ++ '.' :: ds.drop point.toNat
  else if -6 < point ∧ point ≤ 0 then
    '0' :: '.' :: (List.replicate (-point).toNat '0' ++ ds)
  else
    match ds with
    | [] => []
    | [d] => d :: 'e' :: exponentText (point - 1)
    | d :: more => d :: '.' :: (more ++ 'e' :: exponentText (point - 1))

/-- The text of a number, or nothing if it is beyond the largest finite one. -/
def finiteText? (x : Decimal) : Option Text :=
  let value := (⟨x.digits, 1⟩ : Fraction).scale 10 x.exponent
  if x.digits = 0 then some ['0']
  else
    match Binary64.nearest value with
    | none => none
    | some rounded =>
      if rounded.mantissa = 0 then some ['0']
      else
        let (n, grid) := rounded.shortest
        some (if x.negative then '-' :: layout n grid else layout n grid)

/-- The text of a number. -/
def text (x : Decimal) : Text :=
  match x.finiteText? with
  | some found => found
  | none => if x.negative then "-Infinity".toList else "Infinity".toList

/-- A whole number. -/
def ofInt (n : Int) : Decimal := ⟨n < 0, n.natAbs, 0⟩

end Decimal

end ConfigEditor
