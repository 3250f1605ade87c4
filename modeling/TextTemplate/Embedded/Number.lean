import TextTemplate.Decimal.Exact
import TextTemplate.Decimal.Rounded
import TextTemplate.Integer
set_option autoImplicit false

/-!
# Number: integers and floats of scripts

A number is an integer of 64 bits, whose arithmetic wraps around, or a float.  An operation on two
integers is one on integers; otherwise both are taken as floats.  Division and powers are always
floats.  Comparing an integer with a float is exact.
-/

namespace TextTemplate.Embedded

open Decimal (Exact Binary64 Dyadic)

/-- A number. -/
inductive Number where
  | int (i : Int64)
  | float (x : Float)
  deriving BEq, Repr, Inhabited

namespace Number

/-- The integer of 64 bits that a float is, if it is one. -/
def wholeFloat? (x : Float) : Option Int64 := do
  int64? (← (← Exact.ofFloat? x).toInt?)

/-- A number as a float. -/
def toFloat : Number → Float
  | int i => i.toFloat
  | float x => x

/-- A number as an integer, if it is one. -/
def toInt64? : Number → Option Int64
  | int i => some i
  | float x => wholeFloat? x

/-! ## Arithmetic -/

/-- An operation on two integers or two floats. -/
def arithmetic (ints : Int64 → Int64 → Int64) (floats : Float → Float → Float) :
    Number → Number → Number
  | int a, int b => int (ints a b)
  | a, b => float (floats a.toFloat b.toFloat)

def add : Number → Number → Number := arithmetic (· + ·) (· + ·)

def sub : Number → Number → Number := arithmetic (· - ·) (· - ·)

def mul : Number → Number → Number := arithmetic (· * ·) (· * ·)

def div (a b : Number) : Number := float (a.toFloat / b.toFloat)

/-- A power; a square is a product. -/
def pow (a b : Number) : Number :=
  let x := a.toFloat
  let y := b.toFloat
  float (if y == 2 then x * x else x.pow y)

def neg : Number → Number
  | int i => int (-i)
  | float x => float (-x)

/-- The quotient rounded down; there is none of integers by zero. -/
def floorDiv? : Number → Number → Option Number
  | int a, int b => if b = 0 then none else some (int (Int64.ofInt (a.toInt.fdiv b.toInt)))
  | a, b => some (float (a.toFloat / b.toFloat).floor)

/-- The remainder of a division of floats whose quotient is rounded towards zero.  It has the sign
of the dividend, and a dividend is its own remainder by infinity. -/
def truncatedRem (x y : Float) : Float :=
  match Exact.ofFloat? x, Exact.ofFloat? y with
  | some a, some b =>
    if b.mantissa = 0 then x / y * 0
    else
      let r := (a.rem b).toFloat
      if r == 0 then x * 0 else r
  | some _, none => if y.isNaN then y else x
  | none, _ => x * 0

/-- The remainder of a division of floats whose quotient is rounded down.  It has the sign of the
divisor. -/
def flooredRem (x y : Float) : Float :=
  let r := truncatedRem x y
  if (0 < r && y < 0) || (r < 0 && 0 < y) then r + y else r

/-- The remainder of the division rounded down; there is none of integers by zero. -/
def mod? : Number → Number → Option Number
  | int a, int b => if b = 0 then none else some (int (Int64.ofInt (a.toInt.fmod b.toInt)))
  | a, b => some (float (flooredRem a.toFloat b.toFloat))

/-- The bits moved up by `places`, or down if that is negative; zeros come in. -/
def shift (i : Int64) (places : Int) : Int64 :=
  if 64 ≤ places.natAbs then 0
  else if 0 ≤ places then (i.toUInt64 <<< places.natAbs.toUInt64).toInt64
  else (i.toUInt64 >>> places.natAbs.toUInt64).toInt64

/-! ## Comparison -/

def equal : Number → Number → Bool
  | int a, int b => a == b
  | float x, float y => x == y
  | int a, float y | float y, int a => wholeFloat? y == some a

def lt : Number → Number → Bool
  | int a, int b => a < b
  | float x, float y => x < y
  | int a, float y =>
    match Exact.ofFloat? y with
    | some e => (Exact.ofInt a.toInt).order e == .lt
    | none => 0 < y
  | float x, int b =>
    match Exact.ofFloat? x with
    | some e => e.order (Exact.ofInt b.toInt) == .lt
    | none => x < 0

def le (a b : Number) : Bool := lt a b || equal a b

/-! ## Text -/

/-- The text of a float: fourteen significant digits, and `.0` behind a float that would otherwise
look like an integer. -/
def floatText (x : Float) : String :=
  match Binary64.ofFloat x with
  | .nan => "nan"
  | .infinite negative => if negative then "-inf" else "inf"
  | .finite negative d =>
    let magnitude := if d.mantissa = 0 then "0" else (d.rounded 14).general 14
    let text := (if negative then "-" else "") ++ magnitude
    if text.any (fun c => c = '.' || c = 'e') then text else text ++ ".0"

/-- The text of a number. -/
def text : Number → String
  | int i => toString i.toInt
  | float x => floatText x

end Number

end TextTemplate.Embedded
