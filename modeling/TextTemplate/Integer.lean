set_option autoImplicit false

/-!
# Integer: the integers that fit 64 bits
-/

namespace TextTemplate

/-- Does an integer fit 64 bits with a sign? -/
def fitsInt64 (i : Int) : Bool := -9223372036854775808 ≤ i && i ≤ 9223372036854775807

/-- An integer as one of 64 bits, if it fits. -/
def int64? (i : Int) : Option Int64 := if fitsInt64 i then some (Int64.ofInt i) else none

/-- Does a number fit 64 bits without a sign? -/
def fitsUInt64 (n : Nat) : Bool := n < 18446744073709551616

end TextTemplate
