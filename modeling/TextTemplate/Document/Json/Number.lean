import TextTemplate.Document.Fault
import TextTemplate.Document.Json
import TextTemplate.Integer
set_option autoImplicit false

/-!
# Number: the numbers of JSON documents

A number's digits are collected in a significand of 64 bits.  Integer digits that no longer fit only
count as a power of ten, and fraction digits that no longer fit are dropped.  The float is then one
product or quotient of the significand and a power of ten, so it can miss the nearest float by a
little.  A number too large for a float is refused, one too small is zero.
-/

namespace TextTemplate.Document.Json

/-- Digits collected so far: their number is `significand * 10 ^ exponent`. -/
structure Decimal where
  significand : Nat
  exponent : Int
  deriving DecidableEq, Repr, Inhabited

namespace Decimal

/-- The significand with a digit more, as long as it fits 64 bits. -/
def push? (significand : Nat) (c : Char) : Option Nat :=
  let significand := 10 * significand + (c.toNat - '0'.toNat)
  if fitsUInt64 significand then some significand else none

/-- Collects integer digits; from the first one that does not fit on, they only count. -/
def pushInteger (d : Decimal) : List Char → Decimal
  | [] => d
  | c :: cs =>
    match push? d.significand c with
    | some significand => pushInteger { d with significand } cs
    | none => { d with exponent := d.exponent + (cs.length + 1) }

/-- Collects fraction digits up to the first one that does not fit. -/
def pushFraction (d : Decimal) : List Char → Decimal
  | [] => d
  | c :: cs =>
    match push? d.significand c with
    | some significand => pushFraction ⟨significand, d.exponent - 1⟩ cs
    | none => d

/-- The float nearest to a power of ten. -/
def powerOfTen (n : Nat) : Float := Float.ofScientific 1 false n

/-- Divides by a power of ten, in steps of at most `10 ^ 308`.  Four steps leave nothing of any
significand. -/
def divide : Nat → Float → Nat → Float
  | 0, x, _ => x
  | steps + 1, x, n =>
    if n ≤ 308 then x / powerOfTen n else divide steps (x / powerOfTen 308) (n - 308)

/-- The magnitude of a number; nothing if it is too large. -/
def magnitude? (d : Decimal) : Option Float :=
  let x := Float.ofNat d.significand
  if d.exponent < 0 then some (divide 4 x d.exponent.natAbs)
  else if d.exponent ≤ 308 then
    let y := x * powerOfTen d.exponent.toNat
    if y.isInf then none else some y
  else if d.significand = 0 then some x
  else none

end Decimal

/-- The parts of a written number. -/
structure Numeral where
  negative : Bool
  integer : List Char
  fraction : Option (List Char)
  exponent : Option (Bool × List Char)
  deriving DecidableEq, Repr, Inhabited

namespace Numeral

/-- The power of ten that an exponent part stands for, its sign first.  One beyond 32 bits is as
good as none: it makes any number too large or zero. -/
def shift : Option (Bool × List Char) → Int
  | none => 0
  | some (negative, digits) =>
    let n := min (decimalValue digits) 2147483648
    if negative then -n else n

/-- The float that a number denotes. -/
def float? (n : Numeral) : Option Float := do
  let d := ((Decimal.mk 0 0).pushInteger n.integer).pushFraction (n.fraction.getD [])
  let x ← { d with exponent := d.exponent + shift n.exponent : Decimal }.magnitude?
  return if n.negative then -x else x

/-- The node that a number denotes: an integer if it is written as one, fits 64 bits and is not
negative zero, and a float otherwise. -/
def toJson? (n : Numeral) : Option Json :=
  let i := decimalValue n.integer
  if n.fraction.isNone && n.exponent.isNone && !n.negative && fitsUInt64 i then
    some (.int i)
  else if n.fraction.isNone && n.exponent.isNone && n.negative && 0 < i && fitsInt64 (-i) then
    some (.int (-i))
  else n.float?.map .float

end Numeral

/-- Takes at least one digit. -/
def digits : Reader (List Char) := do
  let ds ← Reader.takeWhile Char.isDigit
  if ds.isEmpty then Reader.fail .number else return ds

/-- Takes an integer part, which has no leading zero. -/
def integerPart : Reader (List Char) := do
  let ds ← digits
  if 1 < ds.length ∧ ds.head? = some '0' then Reader.fail .number else return ds

/-- Takes a fraction part, if there is one. -/
def fractionPart : Reader (Option (List Char)) := do
  if ← Reader.accept '.' then return some (← digits) else return none

/-- Takes an exponent part, if there is one. -/
def exponentPart : Reader (Option (Bool × List Char)) := do
  match ← Reader.peek? with
  | some 'e' | some 'E' =>
    let _ ← Reader.next
    if ← Reader.accept '-' then return some (true, ← digits)
    let _ ← Reader.accept '+'
    return some (false, ← digits)
  | _ => return none

/-- Takes a number. -/
def number : Reader Json := do
  let negative ← Reader.accept '-'
  let integer ← integerPart
  let fraction ← fractionPart
  let exponent ← exponentPart
  match (Numeral.mk negative integer fraction exponent).toJson? with
  | some j => return j
  | none => Reader.fail .number

end TextTemplate.Document.Json
