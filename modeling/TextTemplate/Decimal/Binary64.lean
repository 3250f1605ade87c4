set_option autoImplicit false

/-!
# Binary64: what the 64 bits of a float mean

A float is a sign with a magnitude, an infinity or no number at all.  A finite magnitude is
`mantissa * 2 ^ exponent` with a mantissa below `2 ^ 53`, and the reals that round to it form an
interval around it.  The interval is what the digits of a float are chosen from.
-/

namespace TextTemplate.Decimal

/-- The number `mantissa * 2 ^ exponent`. -/
structure Dyadic where
  mantissa : Nat
  exponent : Int
  deriving DecidableEq, Repr, Inhabited

/-- What a float is. -/
inductive Binary64 where
  | nan
  | infinite (negative : Bool)
  | finite (negative : Bool) (magnitude : Dyadic)
  deriving DecidableEq, Repr, Inhabited

namespace Binary64

/-- The mantissa bit that is implied. -/
def implied : Nat := Nat.pow 2 52

/-- Reads sign, exponent field and fraction field.  An exponent field of zero belongs to the
numbers whose leading mantissa bit is not implied. -/
def ofBits (bits : Nat) : Binary64 :=
  let negative := bits / Nat.pow 2 63 % 2 == 1
  let field : Nat := bits / implied % 2048
  let fraction : Nat := bits % implied
  if field = 2047 then if fraction = 0 then .infinite negative else .nan
  else if field = 0 then .finite negative ⟨fraction, -1074⟩
  else .finite negative ⟨implied + fraction, (field : Int) - 1075⟩

def ofFloat (x : Float) : Binary64 := ofBits x.toBits.toNat

end Binary64

/-- The numbers that round to a positive dyadic number, in units of `2 ^ scale`: from `low` to
`high` around `value`, the ends included if `closed`. -/
structure RoundingInterval where
  low : Nat
  value : Nat
  high : Nat
  scale : Int
  closed : Bool
  deriving DecidableEq, Repr, Inhabited

/-- Half the gap to each neighbour.  Below a power of two the gap is half as wide, except at the
smallest exponent; a tie is rounded to the even mantissa. -/
def Dyadic.roundingInterval (d : Dyadic) : RoundingInterval where
  low := 4 * d.mantissa - if d.mantissa = Binary64.implied ∧ d.exponent ≠ -1074 then 1 else 2
  value := 4 * d.mantissa
  high := 4 * d.mantissa + 2
  scale := d.exponent - 2
  closed := d.mantissa % 2 == 0

end TextTemplate.Decimal
