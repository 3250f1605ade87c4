import TextTemplate.Entries
import TextTemplate.Event
import TextTemplate.Integer
import TextTemplate.Unicode.Blank
import TextTemplate.Unicode.Case
import TextTemplate.Value.Display
set_option autoImplicit false

/-!
# Member: the fields and methods of values

Maps answer their keys as fields and lists their positions.  Scalars and lists have a few methods,
every value but the absent one and objects answers with its text, and what an object answers is the
host's business; only there an access is recorded.
-/

namespace TextTemplate.Value

variable {ω : Type}

/-! ## Fields -/

/-- Appends a decimal digit to an index, as long as the index fits 64 bits. -/
def pushDigit? (index : Nat) (c : Char) : Option Nat :=
  let index := 10 * index + (c.toNat - '0'.toNat)
  if fitsUInt64 index then some index else none

/-- The position that a name denotes: ASCII digits and nothing else, at least one, leading zeros
allowed. -/
def listIndex? (name : String) : Option Nat :=
  let cs := name.toList
  if cs.isEmpty || !cs.all Char.isDigit then none else cs.foldlM pushDigit? 0

/-- The field `name` of a value. -/
def field (host : Host ω) : Value ω → String → Logged ω (Option (Value ω))
  | map entries, name => pure (Entries.find? name entries)
  | list items, name => pure ((listIndex? name).bind (items[·]?))
  | object o, name => do
    Logged.record (.access (.field o name))
    return host.field o name
  | _, _ => pure none

/-! ## Methods -/

/-- The methods of a text. -/
def strMethod? (s : String) : String → Option (Value ω)
  | "len" | "length" => some (int (Int64.ofNat s.length))
  | "to_uppercase" | "toUpperCase" => some (str (Unicode.upper s))
  | "to_lowercase" | "toLowerCase" => some (str (Unicode.lower s))
  | "trim" => some (str (Unicode.trim s))
  | "is_empty" | "isEmpty" => some (bool s.isEmpty)
  | "to_string" | "toString" => some (str s)
  | _ => none

/-- The methods of a list.  An empty list has an absent first and last item. -/
def listMethod? (host : Host ω) (items : List (Value ω)) : String → Option (Value ω)
  | "len" | "length" | "size" => some (int (Int64.ofNat items.length))
  | "is_empty" | "isEmpty" => some (bool items.isEmpty)
  | "first" => some (items.head?.getD null)
  | "last" => some (items.getLast?.getD null)
  | "to_string" | "toString" => some (str (display host (list items)))
  | _ => none

/-- The methods that show a value, for every kind but texts and lists, which have their own. -/
def displayMethod? (host : Host ω) (v : Value ω) : String → Option (Value ω)
  | "to_string" | "toString" => some (str (display host v))
  | _ => none

/-- The absolute value of an integer; that of the smallest one does not fit. -/
def intAbs (i : Int64) : Except MemberError (Value ω) :=
  if i = Int64.minValue then .error (.failed "abs" (toString i.toInt ++ " overflows"))
  else .ok (int (if i < 0 then -i else i))

/-- The methods of the kinds of values other than objects. -/
def kindMethod? (host : Host ω) : Value ω → String → Option (Except MemberError (Value ω))
  | str s, name => (strMethod? s name).map .ok
  | list items, name => (listMethod? host items name).map .ok
  | int i, "abs" => some (intAbs i)
  | float x, "abs" => some (.ok (float x.abs))
  | v, name => (displayMethod? host v name).map .ok

/-- The answer of the method `name` of a value; nothing if it has no such method. -/
def call (host : Host ω) : Value ω → String → Logged ω (Option (Except MemberError (Value ω)))
  | null, _ => pure none
  | object o, name => do
    Logged.record (.access (.call o name))
    return host.call o name
  | v, name => pure (kindMethod? host v name)

end TextTemplate.Value
