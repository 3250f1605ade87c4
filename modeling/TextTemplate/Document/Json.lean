import TextTemplate.Integer
import TextTemplate.Value
set_option autoImplicit false

/-!
# Json: documents of values, lists and objects

A document in JavaScript Object Notation is a tree.  A number in it is held as an integer if it was
written as one that fits 64 bits, with or without a sign, and as a float otherwise.  The entries of
an object are in key order.
-/

namespace TextTemplate.Document

/-- A node of a document. -/
inductive Json where
  | null
  | bool (b : Bool)
  | int (i : Int)
  | float (x : Float)
  | str (s : String)
  | arr (items : List Json)
  | obj (entries : List (String × Json))
  deriving Inhabited, Repr

namespace Json

variable {ω : Type}

/-- The value of an integer: itself where a signed integer of 64 bits can hold it, and the nearest
float elsewhere. -/
def integerValue (i : Int) : Value ω :=
  match int64? i with
  | some i => .int i
  | none => .float (Float.ofInt i)

mutual

/-- The value that a node stands for. -/
def toValue : Json → Value ω
  | null => .null
  | bool b => .bool b
  | int i => integerValue i
  | float x => .float x
  | str s => .str s
  | arr items => .list (toValues items)
  | obj entries => .map (toEntries entries)

/-- The values of the items of an array. -/
def toValues : List Json → List (Value ω)
  | [] => []
  | j :: js => toValue j :: toValues js

/-- The values of the entries of an object. -/
def toEntries : List (String × Json) → List (String × Value ω)
  | [] => []
  | (k, j) :: es => (k, toValue j) :: toEntries es

end

end Json

end TextTemplate.Document
