set_option autoImplicit false

/-!
# Digits: what written digits denote

Digits are ASCII digits; a hexadecimal digit may be a letter of either case.
-/

namespace TextTemplate

/-- The value of a hexadecimal digit. -/
def hexDigit? (c : Char) : Option Nat :=
  if '0' ≤ c ∧ c ≤ '9' then some (c.toNat - '0'.toNat)
  else if 'a' ≤ c ∧ c ≤ 'f' then some (c.toNat - 'a'.toNat + 10)
  else if 'A' ≤ c ∧ c ≤ 'F' then some (c.toNat - 'A'.toNat + 10)
  else none

/-- Is the character a hexadecimal digit? -/
def isHexDigit (c : Char) : Bool := (hexDigit? c).isSome

/-- The number that digits denote in a base. -/
def digitsValue (base : Nat) (digits : List Char) : Nat :=
  digits.foldl (fun n c => base * n + (hexDigit? c).getD 0) 0

/-- The number that decimal digits denote. -/
def decimalValue (digits : List Char) : Nat :=
  digits.foldl (fun n c => 10 * n + (c.toNat - '0'.toNat)) 0

/-- The character with a code, if there is one. -/
def character? (code : Nat) : Option Char :=
  if code.isValidChar then some (Char.ofNat code) else none

end TextTemplate
