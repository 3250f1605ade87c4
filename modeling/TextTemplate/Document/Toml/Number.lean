import TextTemplate.Document.Fault
import TextTemplate.Document.Toml
import TextTemplate.Integer
set_option autoImplicit false

/-!
# Number: the numbers of TOML documents

Integers are decimal with a sign, or hexadecimal, octal or binary without one, and must fit a signed
integer of 64 bits.  A float has a fraction or an exponent and is the nearest one to what is
written; it must not be infinitely large.  Single underscores may stand between digits.
-/

namespace TextTemplate.Document.Toml

/-- Digits of a base, and single underscores between them.  `gap` tells whether the character before
was no digit. -/
def digitRun (isDigit : Char → Bool) : (gap : Bool) → List Char →
    Except Fault (List Char × List Char)
  | gap, [] => if gap then .error .number else .ok ([], [])
  | gap, c :: cs =>
    if isDigit c then
      match digitRun isDigit false cs with
      | .ok (ds, rest) => .ok (c :: ds, rest)
      | .error f => .error f
    else if gap then .error .number
    else if c = '_' then digitRun isDigit true cs
    else .ok ([], c :: cs)

/-- Takes at least one digit. -/
def digits (isDigit : Char → Bool) : Reader (List Char) := digitRun isDigit true

/-- Takes the digits of an integer part: a zero alone, or digits that begin with another one. -/
def integerPart : Reader (List Char) := do
  if ← Reader.accept '0' then return ['0']
  digits Char.isDigit

/-- Takes a sign, if there is one, and tells whether the number is negative. -/
def sign : Reader Bool := do
  if ← Reader.accept '-' then return true
  let _ ← Reader.accept '+'
  return false

/-- Takes an exponent part, if there is one. -/
def exponentPart : Reader (Option Int) := do
  match ← Reader.peek? with
  | some 'e' | some 'E' =>
    let _ ← Reader.next
    let negative ← sign
    let n : Int := decimalValue (← digits Char.isDigit)
    return some (if negative then -n else n)
  | _ => return none

/-- The float nearest to `digits * 10 ^ exponent`. -/
def nearestFloat (negative : Bool) (digits : Nat) (exponent : Int) : Float :=
  let x := Float.ofScientific digits (exponent < 0) exponent.natAbs
  if negative then -x else x

/-- A float, unless it is infinitely large. -/
def finite (x : Float) : Reader Toml :=
  if x.isInf && 0 < x then Reader.fail .number else return .float x

/-- An integer, if it fits. -/
def fitting (i : Int) : Reader Toml :=
  match int64? i with
  | some i => return .int i
  | none => Reader.fail .number

/-- Takes what follows the sign of a decimal number. -/
def decimal (negative : Bool) : Reader Toml := do
  let integer ← integerPart
  if ← Reader.accept '.' then
    let fraction ← digits Char.isDigit
    let exponent ← exponentPart
    finite (nearestFloat negative (decimalValue (integer ++ fraction))
      (exponent.getD 0 - fraction.length))
  else
    match ← exponentPart with
    | some exponent => finite (nearestFloat negative (decimalValue integer) exponent)
    | none =>
      let n : Int := decimalValue integer
      fitting (if negative then -n else n)

/-- Takes the digits of an integer in another base. -/
def inBase (base : Nat) : Reader Toml := do
  let isDigit (c : Char) : Bool :=
    match hexDigit? c with
    | some d => d < base
    | none => false
  let ds ← digits isDigit
  fitting (digitsValue base ds)

/-- The float that is infinitely large. -/
def infinity : Float := Float.ofBits 0x7ff0000000000000

/-- The float that is no number. -/
def notANumber : Float := Float.ofBits 0x7ff8000000000000

/-- Takes infinity or what is no number. -/
def special (negative : Bool) : Reader Toml := do
  if (← Reader.peek?) = some 'i' then
    Reader.expectAll "inf".toList
    return .float (if negative then -infinity else infinity)
  Reader.expectAll "nan".toList
  return .float notANumber

/-- Takes a number. -/
def number : Reader Toml := do
  match ← get with
  | '0' :: 'x' :: rest =>
    set rest
    inBase 16
  | '0' :: 'o' :: rest =>
    set rest
    inBase 8
  | '0' :: 'b' :: rest =>
    set rest
    inBase 2
  | _ =>
    let negative ← sign
    match ← Reader.peek? with
    | some 'i' | some 'n' => special negative
    | _ => decimal negative

end TextTemplate.Document.Toml
