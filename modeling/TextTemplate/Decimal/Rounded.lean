import TextTemplate.Decimal.Binary64
import TextTemplate.Decimal.Scientific
set_option autoImplicit false

/-!
# Rounded: a fixed count of significant digits

A float is rounded to a given number of significant digits, a tie going to the even digit, and is
written positionally if its first digit stands between the fourth decimal place and that number of
places before the point, and with an exponent otherwise.
-/

namespace TextTemplate.Decimal

/-- The nearest number with `count` significant digits; a tie goes to the even last digit. -/
def Dyadic.rounded (d : Dyadic) (count : Nat) : Scientific :=
  let num := d.mantissa * Nat.pow 2 d.exponent.toNat
  let den := Nat.pow 2 (-d.exponent).toNat
  let e := decimalOrder num den - count + 1
  let num := num * Nat.pow 10 (-e).toNat
  let den := den * Nat.pow 10 e.toNat
  let below := num / den
  let twice := 2 * (num % den)
  let up := den < twice ∨ (twice = den ∧ below % 2 = 1)
  (Scientific.mk (if up then below + 1 else below) e).normalize

/-- The written form of a rounded number. -/
def Scientific.general (s : Scientific) (count : Nat) : String :=
  if -4 ≤ s.order ∧ s.order < count then s.positional else s.exponential

end TextTemplate.Decimal
