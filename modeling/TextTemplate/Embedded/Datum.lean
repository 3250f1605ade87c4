import TextTemplate.Embedded.Number
import TextTemplate.Text.Bytes
set_option autoImplicit false

/-!
# Datum: what a script computes with

A datum is nothing, a truth value, a number, a text of bytes, or a reference to a table or a
function.  Everything but nothing and the float that is no number can be a key of a table, and a
float that is an integer is the same key as that integer.
-/

namespace TextTemplate.Embedded

/-- The functions that are there from the beginning. -/
inductive Builtin where
  | type
  | tostring
  | error
  | print
  | setmetatable
  deriving DecidableEq, Repr, Inhabited

namespace Builtin

/-- The name of a function. -/
def name : Builtin → String
  | type => "type"
  | tostring => "tostring"
  | error => "error"
  | print => "print"
  | setmetatable => "setmetatable"

/-- All of them. -/
def all : List Builtin := [type, tostring, error, print, setmetatable]

end Builtin

/-- A reference to a function. -/
inductive FunctionRef where
  | builtin (b : Builtin)
  | closure (id : Nat)
  deriving DecidableEq, Repr, Inhabited

/-- A datum. -/
inductive Datum where
  | nil
  | bool (b : Bool)
  | int (i : Int64)
  | float (x : Float)
  | str (bytes : Bytes)
  | table (id : Nat)
  | function (f : FunctionRef)
  deriving Inhabited

/-- A key of a table. -/
inductive Key where
  | bool (b : Bool)
  | int (i : Int64)
  /-- a float that is no integer, by its bits -/
  | float (bits : UInt64)
  | str (bytes : Bytes)
  | table (id : Nat)
  | function (f : FunctionRef)
  deriving DecidableEq, Inhabited

namespace Key

/-- A text as a key. -/
def ofString (s : String) : Key := str (Bytes.ofString s)

/-- The name of the type of a key. -/
def typeName : Key → String
  | bool _ => "boolean"
  | int _ | float _ => "number"
  | str _ => "string"
  | table _ => "table"
  | function _ => "function"

end Key

namespace Datum

/-- A text as a datum. -/
def ofString (s : String) : Datum := str (Bytes.ofString s)

/-- A number as a datum. -/
def ofNumber : Number → Datum
  | .int i => int i
  | .float x => float x

/-- The number that a datum is, if it is one. -/
def number? : Datum → Option Number
  | int i => some (.int i)
  | float x => some (.float x)
  | _ => none

/-- The name of the type of a datum. -/
def typeName : Datum → String
  | nil => "nil"
  | bool _ => "boolean"
  | int _ | float _ => "number"
  | str _ => "string"
  | table _ => "table"
  | function _ => "function"

/-- Does a datum count as true?  Only nothing and the false truth value do not. -/
def isTrue : Datum → Bool
  | nil | bool false => false
  | _ => true

/-- Is the datum absent? -/
def isNil : Datum → Bool
  | nil => true
  | _ => false

/-- The key that a datum is. -/
def key? : Datum → Option Key
  | nil => none
  | bool b => some (.bool b)
  | int i => some (.int i)
  | float x =>
    match Number.wholeFloat? x with
    | some i => some (.int i)
    | none => if x.isNaN then none else some (.float x.toBits)
  | str bytes => some (.str bytes)
  | table id => some (.table id)
  | function f => some (.function f)

/-- Are two data equal?  Numbers are by what they are worth, tables and functions by identity. -/
def equal : Datum → Datum → Bool
  | nil, nil => true
  | bool a, bool b => a == b
  | str a, str b => a == b
  | table a, table b => a == b
  | function f, function g => f == g
  | a, b =>
    match a.number?, b.number? with
    | some m, some n => m.equal n
    | _, _ => false

end Datum

end TextTemplate.Embedded
