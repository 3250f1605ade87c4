import TextTemplate.Decimal.Binary64
set_option autoImplicit false

/-!
# Exact: finite floats as exact numbers

A finite float is an integer times a power of two.  Taken as such it can be compared with an integer
of any size, divided with a remainder, and rounded back to the nearest float, without any error on
the way.
-/

namespace TextTemplate.Decimal

/-- The number `mantissa * 2 ^ exponent`. -/
structure Exact where
  mantissa : Int
  exponent : Int
  deriving DecidableEq, Repr, Inhabited

namespace Exact

/-- An integer. -/
def ofInt (i : Int) : Exact := ⟨i, 0⟩

/-- The number that a float is, if it is finite. -/
def ofFloat? (x : Float) : Option Exact :=
  match Binary64.ofFloat x with
  | .finite negative d =>
    some ⟨if negative then -(d.mantissa : Int) else d.mantissa, d.exponent⟩
  | _ => none

/-- The mantissa that belongs to a smaller exponent. -/
def mantissaAt (x : Exact) (exponent : Int) : Int :=
  x.mantissa * Nat.pow 2 (x.exponent - exponent).toNat

/-- The integer that a number is, if it is one. -/
def toInt? (x : Exact) : Option Int :=
  let scale : Int := Nat.pow 2 (-x.exponent).toNat
  let i := x.mantissaAt 0
  if i % scale = 0 then some (i / scale) else none

/-- Which of two numbers is smaller? -/
def order (x y : Exact) : Ordering :=
  let e := min x.exponent y.exponent
  compare (x.mantissaAt e) (y.mantissaAt e)

/-- The remainder of a division whose quotient is rounded towards zero. -/
def rem (x y : Exact) : Exact :=
  let e := min x.exponent y.exponent
  ⟨(x.mantissaAt e).tmod (y.mantissaAt e), e⟩

/-- The float nearest to `mantissa * 2 ^ exponent`, computed as a decimal number: a negative power of
two is a power of five times a negative power of ten.  Numbers far beyond the range of floats are
infinite or zero without a computation. -/
def magnitudeFloat (mantissa : Nat) (exponent : Int) : Float :=
  let leading : Int := exponent + mantissa.log2
  if mantissa = 0 ∨ leading < -2000 then 0
  else if 2000 < leading then 1 / 0
  else
    Float.ofScientific (mantissa * Nat.pow 2 exponent.toNat * Nat.pow 5 (-exponent).toNat)
      true (-exponent).toNat

/-- The nearest float. -/
def toFloat (x : Exact) : Float :=
  let y := magnitudeFloat x.mantissa.natAbs x.exponent
  if x.mantissa < 0 then -y else y

end Exact

end TextTemplate.Decimal
