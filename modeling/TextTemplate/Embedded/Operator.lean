import TextTemplate.Embedded.Chunk
import TextTemplate.Embedded.Fault
import TextTemplate.Embedded.Numeral
set_option autoImplicit false

/-!
# Operator: operations on data

Arithmetic takes texts that read as numbers, bit operations take floats that are integers, and
concatenation takes numbers by their text.  Numbers are compared by what they are worth and texts
byte by byte.
-/

namespace TextTemplate.Embedded

namespace Datum

/-- The bytes of a text, each as a character; only those of ASCII can be part of a number. -/
def asciiChars (bytes : Bytes) : List Char := bytes.map fun b => Char.ofNat b.toNat

/-- The number that a datum is taken for in arithmetic. -/
def toNumber (d : Datum) : Except Fault Number :=
  match d, d.number? with
  | str bytes, _ =>
    match Number.ofText? (asciiChars bytes) with
    | some n => .ok n
    | none => .error (.arithmetic d.typeName)
  | _, some n => .ok n
  | _, none => .error (.arithmetic d.typeName)

/-- The integer that a datum is taken for in a bit operation. -/
def toBits (d : Datum) : Except Fault Int64 :=
  match d.number? with
  | none => .error (.bits d.typeName)
  | some n =>
    match n.toInt64? with
    | some i => .ok i
    | none => .error .noInteger

/-- The bytes that a datum is taken for in a concatenation. -/
def toBytes (d : Datum) : Except Fault Bytes :=
  match d, d.number? with
  | str bytes, _ => .ok bytes
  | _, some n => .ok (Bytes.ofString n.text)
  | _, none => .error (.concatenation d.typeName)

/-! ## Operators -/

/-- Arithmetic that always has a result. -/
def arithmetic (f : Number → Number → Number) (a b : Datum) : Except Fault Datum := do
  return ofNumber (f (← a.toNumber) (← b.toNumber))

/-- Division, which integers by zero have none of. -/
def division (f : Number → Number → Option Number) (a b : Datum) : Except Fault Datum := do
  match f (← a.toNumber) (← b.toNumber) with
  | some n => return ofNumber n
  | none => throw .divisionByZero

/-- An operation on the bits of integers. -/
def bits (f : Int64 → Int64 → Int64) (a b : Datum) : Except Fault Datum := do
  let i ← a.toBits
  return int (f i (← b.toBits))

/-- A text behind another. -/
def concat (a b : Datum) : Except Fault Datum := do
  let s ← a.toBytes
  return str (s ++ (← b.toBytes))

/-- Compares two numbers or two texts. -/
def compareWith (numbers : Number → Number → Bool) (texts : List UInt8 → List UInt8 → Bool)
    (a b : Datum) : Except Fault Datum :=
  match a, b, a.number?, b.number? with
  | str s, str t, _, _ => .ok (bool (texts s t))
  | _, _, some m, some n => .ok (bool (numbers m n))
  | _, _, _, _ => .error (.comparison a.typeName b.typeName)

def less : Datum → Datum → Except Fault Datum := compareWith Number.lt (fun s t => s < t)

def lessEqual : Datum → Datum → Except Fault Datum := compareWith Number.le (fun s t => !(t < s))

end Datum

/-- A binary operation on data.  Whether the second operand of a logical one is evaluated at all is
decided before. -/
def BinaryOp.apply (op : BinaryOp) (a b : Datum) : Except Fault Datum :=
  match op with
  | or => .ok (if a.isTrue then a else b)
  | and => .ok (if a.isTrue then b else a)
  | less => Datum.less a b
  | greater => Datum.less b a
  | lessEqual => Datum.lessEqual a b
  | greaterEqual => Datum.lessEqual b a
  | equal => .ok (.bool (a.equal b))
  | unequal => .ok (.bool (!a.equal b))
  | bitOr => Datum.bits (· ||| ·) a b
  | bitXor => Datum.bits (· ^^^ ·) a b
  | bitAnd => Datum.bits (· &&& ·) a b
  | shiftLeft => Datum.bits (fun i n => Number.shift i n.toInt) a b
  | shiftRight => Datum.bits (fun i n => Number.shift i (-n.toInt)) a b
  | concat => Datum.concat a b
  | add => Datum.arithmetic Number.add a b
  | sub => Datum.arithmetic Number.sub a b
  | mul => Datum.arithmetic Number.mul a b
  | div => Datum.arithmetic Number.div a b
  | floorDiv => Datum.division Number.floorDiv? a b
  | mod => Datum.division Number.mod? a b
  | pow => Datum.arithmetic Number.pow a b

end TextTemplate.Embedded
