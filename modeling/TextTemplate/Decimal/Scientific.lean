set_option autoImplicit false

/-!
# Scientific: decimal digits with a power of ten

A positive decimal number is its digits times a power of ten.  Two written forms of it are given:
`positional`, with as many zeros as the place of the point asks for, and `exponential`, with one
digit before the point.  Neither writes a trailing zero after the point.
-/

namespace TextTemplate.Decimal

/-- The number `digits * 10 ^ exponent`. -/
structure Scientific where
  digits : Nat
  exponent : Int
  deriving DecidableEq, Repr, Inhabited

/-- The decimal digits of a number, the first one first. -/
def digitChars (n : Nat) : List Char := Nat.toDigits 10 n

/-- How many decimal digits a number has. -/
def digitCount (n : Nat) : Nat := (digitChars n).length

/-- The greatest `e` with `10 ^ e ≤ num / den`, for positive `num` and `den`.  The digit counts of
the two differ from it by at most one. -/
def decimalOrder (num den : Nat) : Int :=
  let e : Int := (digitCount num : Int) - digitCount den
  if Nat.pow 10 (-e).toNat * num ≥ Nat.pow 10 e.toNat * den then e else e - 1

namespace Scientific

/-- Moves up to `n` trailing zeros of the digits into the exponent. -/
def dropZeros : Nat → Scientific → Scientific
  | 0, s => s
  | n + 1, s =>
    if s.digits ≠ 0 ∧ s.digits % 10 = 0 then dropZeros n ⟨s.digits / 10, s.exponent + 1⟩ else s

/-- The same number without trailing zeros in its digits. -/
def normalize (s : Scientific) : Scientific := dropZeros (digitCount s.digits) s

/-- The exponent of the first digit. -/
def order (s : Scientific) : Int := s.exponent + digitCount s.digits - 1

/-- All digits in their places, filled up with zeros on the left or on the right. -/
def positional (s : Scientific) : String :=
  let ds := digitChars s.digits
  let point : Int := s.exponent + ds.length
  if 0 ≤ s.exponent then String.ofList (ds ++ List.replicate s.exponent.toNat '0')
  else if 0 < point then
    String.ofList (ds.take point.toNat) ++ "." ++ String.ofList (ds.drop point.toNat)
  else "0." ++ String.ofList (List.replicate (-point).toNat '0' ++ ds)

/-- One digit, the other digits after a point, and the exponent with its sign and at least two
digits. -/
def exponential (s : Scientific) : String :=
  let ds := digitChars s.digits
  let mantissa := ds.take 1 ++ if ds.length ≤ 1 then [] else '.' :: ds.drop 1
  let exponent := digitChars s.order.natAbs
  String.ofList (mantissa ++ 'e' :: (if s.order < 0 then '-' else '+')
    :: (if exponent.length < 2 then '0' :: exponent else exponent))

end Scientific

end TextTemplate.Decimal
