import TextTemplate.Embedded.Number
import TextTemplate.Text.Digits
set_option autoImplicit false

/-!
# Numeral: the written numbers of scripts

A numeral is decimal or, behind `0x`, hexadecimal.  Without a point and an exponent it denotes an
integer: a decimal one that does not fit 64 bits is a float instead, and a hexadecimal one wraps
around.  The exponent of a decimal numeral is one of ten, that of a hexadecimal one of two.  A text
can be read as a number if it is a numeral with an optional sign and blanks around.
-/

namespace TextTemplate.Embedded

/-- The parts of a written number. -/
structure Numeral where
  integer : List Char
  fraction : Option (List Char)
  exponent : Option Int
  deriving DecidableEq, Repr, Inhabited

namespace Numeral

/-- An exponent: an optional sign and at least one digit. -/
def exponent? (cs : List Char) : Option Int :=
  let (negative, digits) := match cs with
    | '-' :: cs => (true, cs)
    | '+' :: cs => (false, cs)
    | cs => (false, cs)
  if digits.isEmpty || !digits.all Char.isDigit then none
  else some (if negative then -decimalValue digits else decimalValue digits)

/-- Splits a numeral into its parts.  There is a digit before or behind the point. -/
def ofText? (isDigit isMark : Char → Bool) (cs : List Char) : Option Numeral := do
  let integer := cs.takeWhile isDigit
  let rest := cs.dropWhile isDigit
  let (fraction, rest) := match rest with
    | '.' :: rest => (some (rest.takeWhile isDigit), rest.dropWhile isDigit)
    | rest => (none, rest)
  if integer.isEmpty && (fraction.getD []).isEmpty then none
  match rest with
  | [] => some ⟨integer, fraction, none⟩
  | c :: rest => if isMark c then some ⟨integer, fraction, some (← exponent? rest)⟩ else none

/-- Is the numeral one of an integer? -/
def isInteger (n : Numeral) : Bool := n.fraction.isNone && n.exponent.isNone

/-- The power of the base that the last digit stands for. -/
def scale (n : Numeral) (step : Int) : Int :=
  n.exponent.getD 0 - step * (n.fraction.getD []).length

/-- The digits without the point. -/
def digits (n : Numeral) : List Char := n.integer ++ n.fraction.getD []

/-- The number that a decimal numeral denotes, which may be negative. -/
def decimal (negative : Bool) (n : Numeral) : Number :=
  let value := decimalValue n.digits
  match if n.isInteger then int64? (if negative then -value else value) else none with
  | some i => .int i
  | none =>
    let e := n.scale 1
    let x := Float.ofScientific value (e < 0) e.natAbs
    .float (if negative then -x else x)

/-- The number that a hexadecimal numeral denotes, which may be negative. -/
def hexadecimal (negative : Bool) (n : Numeral) : Number :=
  let value := digitsValue 16 n.digits
  if n.isInteger then .int (Int64.ofInt (if negative then -value else value))
  else
    let x := Decimal.Exact.magnitudeFloat value (n.scale 4)
    .float (if negative then -x else x)

end Numeral

namespace Number

/-- The number that a numeral denotes. -/
def ofNumeral? (negative : Bool) (cs : List Char) : Option Number :=
  match cs with
  | '0' :: 'x' :: rest | '0' :: 'X' :: rest =>
    (Numeral.ofText? isHexDigit (fun c => c = 'p' || c = 'P') rest).map
      (Numeral.hexadecimal negative)
  | cs =>
    (Numeral.ofText? Char.isDigit (fun c => c = 'e' || c = 'E') cs).map (Numeral.decimal negative)

/-- Is the character a blank or a line end? -/
def isBlank (c : Char) : Bool :=
  c = ' ' || c = '\t' || c = '\n' || c = '\r' || c = '\x0b' || c = '\x0c'

/-- The number that a text is read as. -/
def ofText? (cs : List Char) : Option Number :=
  let cs := ((cs.dropWhile isBlank).reverse.dropWhile isBlank).reverse
  match cs with
  | '-' :: cs => ofNumeral? true cs
  | '+' :: cs => ofNumeral? false cs
  | cs => ofNumeral? false cs

end Number

end TextTemplate.Embedded
