import TextTemplate.Document.Toml.Datetime
import TextTemplate.Value
set_option autoImplicit false

/-!
# Toml: documents of keys and values

A document of this kind is a table, a tree whose leaves include dates and times.  The entries of a
table stand in the order in which the document names their keys, until the tree is settled: then
they are in key order, and the tables that stand for dates and times have given way to them.  A date
or time becomes a text when it becomes a value.
-/

namespace TextTemplate.Document

/-- A node of a document. -/
inductive Toml where
  | str (s : String)
  | int (i : Int64)
  | float (x : Float)
  | bool (b : Bool)
  | datetime (d : Datetime)
  | arr (items : List Toml)
  | table (entries : List (String × Toml))
  deriving Inhabited, Repr

namespace Toml

/-! ## Settled trees

Besides the leaf there is a second form of a date or time: a table whose first key is `datetimeKey`,
with a text under it.  The other entries of such a table do not count. -/

/-- The key that makes a table a date or time. -/
def datetimeKey : String := "$__toml_private_datetime"

/-- What stands under `datetimeKey`, if that is the first key of a table. -/
def marked? : List (String × Toml) → Option Toml
  | [] => none
  | (key, t) :: _ => if key = datetimeKey then some t else none

/-- The date or time whose text the node is. -/
def toDatetime : Toml → Except Fault Datetime
  | str s => Datetime.ofText s
  | _ => .error .datetime

mutual

/-- The node with dates and times for the tables that stand for them, and with the entries of all
other tables in key order. -/
def settled : Toml → Except Fault Toml
  | str s => .ok (.str s)
  | int i => .ok (.int i)
  | float x => .ok (.float x)
  | bool b => .ok (.bool b)
  | datetime d => .ok (.datetime d)
  | arr items => do return .arr (← settledItems items)
  | table entries =>
    match marked? entries with
    | some t => do return .datetime (← toDatetime t)
    | none => do return .table (Entries.ofList (← settledEntries entries))

/-- The items of an array, each one settled. -/
def settledItems : List Toml → Except Fault (List Toml)
  | [] => .ok []
  | t :: ts => do return (← settled t) :: (← settledItems ts)

/-- The entries of a table, each one settled, in the order they had. -/
def settledEntries : List (String × Toml) → Except Fault (List (String × Toml))
  | [] => .ok []
  | (key, t) :: es => do return (key, ← settled t) :: (← settledEntries es)

end

/-! ## Values -/

variable {ω : Type}

mutual

/-- The value that a node stands for. -/
def toValue : Toml → Value ω
  | str s => .str s
  | int i => .int i
  | float x => .float x
  | bool b => .bool b
  | datetime d => .str d.text
  | arr items => .list (toValues items)
  | table entries => .map (toEntries entries)

/-- The values of the items of an array. -/
def toValues : List Toml → List (Value ω)
  | [] => []
  | t :: ts => toValue t :: toValues ts

/-- The values of the entries of a table. -/
def toEntries : List (String × Toml) → List (String × Value ω)
  | [] => []
  | (k, t) :: es => (k, toValue t) :: toEntries es

end

end Toml

end TextTemplate.Document
