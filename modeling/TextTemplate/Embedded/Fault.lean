import TextTemplate.Embedded.Datum
set_option autoImplicit false

/-!
# Fault: why a script gives no value
-/

namespace TextTemplate.Embedded

/-- Why a script gives no value.  A type is given by its name. -/
inductive Fault where
  /-- arithmetic with what is no number -/
  | arithmetic (type : String)
  /-- a bit operation with what is no number -/
  | bits (type : String)
  /-- a number that is no integer of 64 bits -/
  | noInteger
  /-- division of integers by zero -/
  | divisionByZero
  /-- comparison of what has no order -/
  | comparison (left right : String)
  /-- concatenation of what is neither text nor number -/
  | concatenation (type : String)
  /-- the length of what has none -/
  | length (type : String)
  /-- an index into what has no items -/
  | index (type : String)
  /-- a new key that cannot be one -/
  | key
  /-- a call of what is no function -/
  | call (type : String)
  /-- a call with an argument that does not fit -/
  | argument (function : Builtin)
  /-- an error that the script raised -/
  | raised (error : String)
  /-- calls and expressions nested too deeply -/
  | overflow
  /-- a result that is no value -/
  | unsupportedResult (type : String)
  /-- a table key that is no name -/
  | unsupportedKey (type : String)
  /-- a text of bytes that are no UTF-8 -/
  | encoding
  /-- a table that contains itself -/
  | cycle
  deriving DecidableEq, Repr, Inhabited

namespace Fault

/-- The fault as it is shown. -/
def message : Fault → String
  | arithmetic type => "attempt to perform arithmetic on a " ++ type ++ " value"
  | bits type => "attempt to perform bitwise operation on a " ++ type ++ " value"
  | noInteger => "number has no integer representation"
  | divisionByZero => "attempt to divide by zero"
  | comparison left right => "attempt to compare " ++ left ++ " with " ++ right
  | concatenation type => "attempt to concatenate a " ++ type ++ " value"
  | length type => "attempt to get length of a " ++ type ++ " value"
  | index type => "attempt to index a " ++ type ++ " value"
  | key => "table index is nil or NaN"
  | call type => "attempt to call a " ++ type ++ " value"
  | argument function => "bad argument to '" ++ function.name ++ "'"
  | raised error => error
  | overflow => "stack overflow"
  | unsupportedResult type => "unsupported script result type: " ++ type
  | unsupportedKey type => "unsupported table key type: " ++ type
  | encoding => "text is not UTF-8"
  | cycle => "table contains itself"

end Fault

end TextTemplate.Embedded
