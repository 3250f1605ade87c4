import TextTemplate.Host
import TextTemplate.Decimal.Shortest
set_option autoImplicit false

/-!
# Display: the text of a value

A text stands for itself, at any depth; an absent value inside a list or map is written `null`.
-/

namespace TextTemplate.Value

variable {ω : Type}

mutual

/-- The text of a value. -/
def display (host : Host ω) : Value ω → String
  | null => "null"
  | bool b => if b then "true" else "false"
  | int i => toString i.toInt
  | float x => Decimal.floatText x
  | str s => s
  | list items => "[" ++ ", ".intercalate (displayItems host items) ++ "]"
  | map entries => "\x7b" ++ ", ".intercalate (displayEntries host entries) ++ "\x7d"
  | object o => host.display o

/-- The texts of the items of a list. -/
def displayItems (host : Host ω) : List (Value ω) → List String
  | [] => []
  | v :: vs => display host v :: displayItems host vs

/-- The texts of the entries of a map. -/
def displayEntries (host : Host ω) : List (String × Value ω) → List String
  | [] => []
  | (k, v) :: es => (k ++ "=" ++ display host v) :: displayEntries host es

end

/-- The text of a value in a rendered template, where an absent value has a text of its own. -/
def textOr (host : Host ω) (nullString : String) : Value ω → String
  | null => nullString
  | v => display host v

theorem textOr_of_present {host : Host ω} {v : Value ω} (h : v.isNull = false)
    (nullString : String) : v.textOr host nullString = v.display host := by
  cases v with
  | null => cases h
  | _ => rfl

theorem textOr_of_absent {host : Host ω} {v : Value ω} (h : v.isNull = true)
    (nullString : String) : v.textOr host nullString = nullString := by
  cases v with
  | null => rfl
  | _ => cases h

end TextTemplate.Value
