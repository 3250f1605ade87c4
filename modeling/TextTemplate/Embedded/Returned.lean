import TextTemplate.Decimal.Shortest
import TextTemplate.Entries
import TextTemplate.Embedded.Machine
import TextTemplate.Value
set_option autoImplicit false

/-!
# Returned: data as values

What a script gives back becomes a value.  A table whose keys are exactly the indices from one up to
its length is a list; any other table is a map, whose names are the texts of its keys.  Two things
about a table are not its own but a matter of how it is looked at: the order in which its entries
are met, and which of its borders counts as its length; so both are parameters.  A table may contain
itself; the depth to which tables are followed is a parameter, too.
-/

namespace TextTemplate.Embedded

/-- How tables are looked at. -/
structure TableView where
  border : Table → Nat
  pairs : Table → List (Key × Datum)

/-- The first border, and the sequence before all other entries. -/
def TableView.standard : TableView := ⟨Table.border, Table.pairs⟩

/-- What comes of looking at data: a result, a fault, or nothing if tables are nested too deeply. -/
abbrev Returning := ExceptT Fault Option

/-- A text of bytes as characters. -/
def decodeText (bytes : Bytes) : Except Fault String :=
  match bytes.toString? with
  | some s => .ok s
  | none => .error .encoding

/-- The name that a key is in a map. -/
def Key.name : Key → Except Fault String
  | bool b => .ok (if b then "true" else "false")
  | int i => .ok (toString i.toInt)
  | float bits => .ok (Decimal.floatText (Float.ofBits bits))
  | str bytes => decodeText bytes
  | k => .error (.unsupportedKey k.typeName)

/-- Where an entry of a table goes. -/
inductive Slot where
  | index (i : Int)
  | name (s : String)
  deriving DecidableEq, Repr, Inhabited

/-- Where the entry under a key goes, in a table of length `length`. -/
def Key.slot (length : Nat) (k : Key) : Except Fault Slot :=
  match Table.sequenceIndex? length k with
  | some i => .ok (.index i)
  | none => k.name.map .name

variable {ω : Type}

/-- The value of a table of length `length` whose entries go into slots: a list if every index up to
the length is there and nothing else, and otherwise a map, in which an index is a name, too.  An
entry takes the place of an earlier one of the same slot, and an index that of a name. -/
def assemble (length : Nat) (es : List (Slot × Value ω)) : Value ω :=
  let sequence := Entries.ofList (es.filterMap fun
    | (.index i, v) => some (i, v)
    | (.name _, _) => none)
  let named := Entries.ofList (es.filterMap fun
    | (.index _, _) => none
    | (.name s, v) => some (s, v))
  if named.isEmpty ∧ 0 < length ∧ sequence.length = length then .list (sequence.map (·.2))
  else .map (Entries.insertAll named (sequence.map fun e => (toString e.1, e.2)))

/-- The value of a datum, given how a table is turned into a value. -/
def Datum.toValueWith (table : Nat → Returning (Value ω)) (d : Datum) : Returning (Value ω) :=
  match d with
  | .nil => return .null
  | .bool b => return .bool b
  | .int i => return .int i
  | .float x => return .float x
  | .str bytes =>
    match decodeText bytes with
    | .ok s => return .str s
    | .error f => throw f
  | .table id => table id
  | .function _ => throw (.unsupportedResult d.typeName)

/-- Turns entries into values with their slots; of each entry, the datum before the key. -/
def slots (item : Datum → Returning (Value ω)) (length : Nat) :
    List (Key × Datum) → Returning (List (Slot × Value ω))
  | [] => return []
  | (k, d) :: es => do
    let v ← item d
    match k.slot length with
    | .error f => throw f
    | .ok slot => return (slot, v) :: (← slots item length es)

/-- The value of a table with less than `depth` tables inside one another. -/
def tableValue (view : TableView) (heap : Heap) : (depth : Nat) → (id : Nat) →
    Returning (Value ω)
  | 0, _ => ExceptT.mk none
  | depth + 1, id => do
    let t := heap.table id
    let length := view.border t
    return assemble length
      (← slots (Datum.toValueWith (tableValue view heap depth)) length (view.pairs t))

/-- The value of a datum in which at most `depth` tables are inside one another. -/
def Datum.toValue (view : TableView) (heap : Heap) (depth : Nat) (d : Datum) :
    Returning (Value ω) :=
  d.toValueWith (tableValue view heap depth)

/-- The value of a result.  Where tables are nested more deeply than there are tables, one contains
itself, and no depth would do. -/
def result (view : TableView) (heap : Heap) (d : Datum) : Except Fault (Value ω) :=
  match d.toValue view heap (heap.size + 1) with
  | some r => r
  | none => .error .cycle

end TextTemplate.Embedded
