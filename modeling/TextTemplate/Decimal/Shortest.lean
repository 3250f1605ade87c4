import TextTemplate.Decimal.Binary64
import TextTemplate.Decimal.Scientific
set_option autoImplicit false

/-!
# Shortest: the fewest digits that read back

Of the decimal numbers that round to a float, the ones with the fewest digits are considered, and of
those the one nearest to the float is taken; of two equally near ones, the greater.  The search
tries one digit, two digits and so on.  With a given number of digits only the float's two
neighbours on that decimal grid can lie in its rounding interval first, so two candidates a round
suffice, and seventeen digits always do.
-/

namespace TextTemplate.Decimal

namespace RoundingInterval

/-- With `num / den` grid units to one unit of the interval: is `c` grid units inside? -/
def contains (r : RoundingInterval) (num den c : Nat) : Bool :=
  if r.closed then r.low * num ≤ c * den && c * den ≤ r.high * num
  else r.low * num < c * den && c * den < r.high * num

/-- The grid point inside the interval that is nearest to its value, if the value's lower or upper
neighbour on the grid of multiples of `10 ^ e` is inside. -/
def gridPoint? (r : RoundingInterval) (e : Int) : Option Nat :=
  let num := Nat.pow 2 r.scale.toNat * Nat.pow 10 (-e).toNat
  let den := Nat.pow 10 e.toNat * Nat.pow 2 (-r.scale).toNat
  let below := r.value * num / den
  let above := below + 1
  match r.contains num den below, r.contains num den above with
  | true, true => some (if 2 * (r.value * num - below * den) < den then below else above)
  | true, false => some below
  | false, true => some above
  | false, false => none

/-- Tries `count` digits, then one more, up to `fuel` times. -/
def search (r : RoundingInterval) (order : Int) : Nat → Nat → Option Scientific
  | 0, _ => none
  | fuel + 1, count =>
    let e := order - count + 1
    match r.gridPoint? e with
    | some digits => some ⟨digits, e⟩
    | none => search r order fuel (count + 1)

end RoundingInterval

/-- The shortest decimal number that rounds to a positive dyadic number. -/
def Dyadic.shortest (d : Dyadic) : Scientific :=
  let r := d.roundingInterval
  let order := decimalOrder (r.value * Nat.pow 2 r.scale.toNat) (Nat.pow 2 (-r.scale).toNat)
  ((r.search order 17 1).getD ⟨0, 0⟩).normalize

/-- The text of a float: its shortest digits, always positional, a whole number without a point. -/
def floatText (x : Float) : String :=
  match Binary64.ofFloat x with
  | .nan => "NaN"
  | .infinite negative => if negative then "-inf" else "inf"
  | .finite negative d =>
    (if negative then "-" else "")
      ++ if d.mantissa = 0 then "0" else d.shortest.positional

end TextTemplate.Decimal
