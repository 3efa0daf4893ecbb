set_option autoImplicit false

/-!
# Numbers: 64-bit floating point in exact arithmetic

A positive finite number of the 64-bit binary format is `m * 2 ^ q` with
`m < 2 ^ 53` and `-1074 ≤ q`; where `m < 2 ^ 52`, `q = -1074`.  `nearest` rounds a
positive fraction to this grid, a half to the even neighbour.  `shortest` finds the
decimal digits that stand for such a number: as few as allow it to be read back, and
of those the nearest, a tie going to the even last digit.

Everything is computed with natural numbers, so no rounding happens on the way.
-/

namespace ConfigEditor

/-- The number `mantissa * 2 ^ exponent`. -/
structure Binary64 where
  mantissa : Nat
  exponent : Int
  deriving DecidableEq, Repr, Inhabited

/-- The fraction `num / den`. -/
structure Fraction where
  num : Nat
  den : Nat
  deriving DecidableEq, Repr, Inhabited

namespace Fraction

/-- A fraction times an integral power of a base. -/
def scale (x : Fraction) (base : Nat) (power : Int) : Fraction :=
  if 0 ≤ power then ⟨x.num * base.pow power.toNat, x.den⟩
  else ⟨x.num, x.den * base.pow (-power).toNat⟩

/-- Comparison by cross multiplication. -/
def lt (x y : Fraction) : Bool := x.num * y.den < y.num * x.den

/-- The nearest natural number, a half going to the even one. -/
def round (x : Fraction) : Nat :=
  let floor := x.num / x.den
  let twice := 2 * (x.num % x.den)
  if twice < x.den then floor
  else if x.den < twice then floor + 1
  else if floor % 2 = 0 then floor else floor + 1

end Fraction

namespace Binary64

/-- The least mantissa with 53 binary digits, `2 ^ 52`. -/
def leastFull : Nat := Nat.pow 2 52

/-- The exponent at which a positive fraction has 53 binary digits before the point, but never
below the least one. -/
def exponentOf (x : Fraction) : Int :=
  let guess : Int := (x.num.log2 : Int) - x.den.log2 - 52
  let exact := if (x.scale 2 (-guess)).lt ⟨leastFull, 1⟩ then guess - 1 else guess
  max exact (-1074)

/-- The nearest number of the format to a positive fraction; nothing if it is too large. -/
def nearest (x : Fraction) : Option Binary64 :=
  let q := exponentOf x
  let m := (x.scale 2 (-q)).round
  let rounded : Binary64 := if m = 2 * leastFull then ⟨leastFull, q + 1⟩ else ⟨m, q⟩
  if 971 < rounded.exponent then none else some rounded

/-- The number itself as a fraction. -/
def toFraction (x : Binary64) : Fraction := (⟨x.mantissa, 1⟩ : Fraction).scale 2 x.exponent

/-- Lower end of the fractions that round to a number. -/
def lowerEnd (x : Binary64) : Fraction :=
  if x.mantissa = leastFull ∧ -1074 < x.exponent then
    (⟨4 * x.mantissa - 1, 1⟩ : Fraction).scale 2 (x.exponent - 2)
  else (⟨2 * x.mantissa - 1, 1⟩ : Fraction).scale 2 (x.exponent - 1)

/-- Upper end of the fractions that round to a number. -/
def upperEnd (x : Binary64) : Fraction :=
  (⟨2 * x.mantissa + 1, 1⟩ : Fraction).scale 2 (x.exponent - 1)

/-- A fraction rounds to a number.  The ends do if the mantissa is even. -/
def roundsTo (x : Binary64) (y : Fraction) : Bool :=
  if x.mantissa % 2 = 0 then !y.lt x.lowerEnd && !x.upperEnd.lt y
  else x.lowerEnd.lt y && y.lt x.upperEnd

/-- Number of decimal digits before the point of a fraction that is at least one, and minus
the number of zeros after the point of a smaller one. -/
def decimalPoint (x : Fraction) : Int :=
  if !x.lt ⟨1, 1⟩ then ((Nat.toDigits 10 (x.num / x.den)).length : Int)
  else
    let inverse := (x.den + x.num - 1) / x.num
    1 - ((Nat.toDigits 10 (inverse - 1)).length : Int)

/-- The number on the grid of the powers of ten given by `grid` that is nearest to `x` among
those that round to it. -/
def onGrid (x : Binary64) (grid : Int) : Option Nat :=
  let scaled := x.toFraction.scale 10 (-grid)
  let floor := scaled.num / scaled.den
  let fits (n : Nat) : Bool := x.roundsTo ((⟨n, 1⟩ : Fraction).scale 10 grid)
  match fits floor, fits (floor + 1) with
  | true, true => some scaled.round
  | true, false => some floor
  | false, true => some (floor + 1)
  | false, false => none

/-- Tries grids with more and more digits. -/
def shortestFrom (x : Binary64) (point : Int) : (tries digits : Nat) → Nat × Int
  | 0, _ => (0, 0)
  | tries + 1, digits =>
    let grid := point - digits
    match x.onGrid grid with
    | some n => (n, grid)
    | none => shortestFrom x point tries (digits + 1)

/-- The shortest decimal digits `n` and the power of ten `grid` with `n * 10 ^ grid` rounding
to a positive number.  Seventeen digits always suffice. -/
def shortest (x : Binary64) : Nat × Int :=
  x.shortestFrom (decimalPoint x.toFraction) 18 1

end Binary64

end ConfigEditor
