import TextTemplate.Entries
set_option autoImplicit false

/-!
# Value: what a name can be bound to

A value is nothing, a scalar, a list, a map from names to values, or a reference to a host object.
The type of references is a parameter `ω`: the library never looks inside an object, it asks the
host about it (`Host`), and two references are the same object exactly when `==` on `ω` says so.
The entries of a map are kept in key order.
-/

namespace TextTemplate

/-- A value that a template can name. -/
inductive Value (ω : Type) where
  | null
  | bool (b : Bool)
  | int (i : Int64)
  | float (x : Float)
  | str (s : String)
  | list (items : List (Value ω))
  | map (entries : List (String × Value ω))
  | object (o : ω)
  deriving Inhabited, Repr

namespace Value

variable {ω : Type}

/-- Is the value the absent one? -/
def isNull : Value ω → Bool
  | null => true
  | _ => false

/-- The map of the given entries; of several under one key the last counts. -/
def ofEntries (es : List (String × Value ω)) : Value ω := map (Entries.ofList es)

/-- The name of the kind of a value. -/
def kind : Value ω → String
  | null => "null"
  | bool _ => "bool"
  | int _ => "int"
  | float _ => "float"
  | str _ => "string"
  | list _ => "list"
  | map _ => "map"
  | object _ => "object"

/-! ## Equality

Values of different kinds differ.  Lists and maps are compared item by item, floats as numbers, so
that zero equals negative zero and a float that is no number differs from itself, and objects by
identity. -/

mutual

/-- Are two values equal? -/
def beq [BEq ω] : Value ω → Value ω → Bool
  | null, null => true
  | bool a, bool b => a == b
  | int a, int b => a == b
  | float a, float b => a == b
  | str a, str b => a == b
  | list as, list bs => beqItems as bs
  | map as, map bs => beqEntries as bs
  | object a, object b => a == b
  | _, _ => false

/-- Are two lists of values equal item by item? -/
def beqItems [BEq ω] : List (Value ω) → List (Value ω) → Bool
  | [], [] => true
  | a :: as, b :: bs => beq a b && beqItems as bs
  | _, _ => false

/-- Are two lists of entries equal, keys and values? -/
def beqEntries [BEq ω] : List (String × Value ω) → List (String × Value ω) → Bool
  | [], [] => true
  | (k, a) :: as, (l, b) :: bs => k == l && beq a b && beqEntries as bs
  | _, _ => false

end

instance [BEq ω] : BEq (Value ω) := ⟨beq⟩

end Value

end TextTemplate
