import TextTemplate.Embedded.Machine
import TextTemplate.Value.Detached
set_option autoImplicit false

/-!
# Stored: values as data

A value is handed to scripts as a datum.  A list becomes a table with indices from one on and a map
one with its names as keys; an absent value is nothing, so it leaves no entry behind.  The parts of
a value are stored before the table that holds them, so a stored table refers to earlier tables
only.
-/

namespace TextTemplate.Embedded

open Value (Detached)

/-- The table with data at the indices from one on. -/
def Table.ofList (ds : List Datum) : Table :=
  Table.ofEntries (ds.mapIdx fun i d => (Key.int (Int64.ofNat (i + 1)), d))

/-- The table with data under names. -/
def Table.ofNames (es : List (String × Datum)) : Table :=
  Table.ofEntries (es.map fun e => (Key.ofString e.1, e.2))

mutual

/-- Stores a value in a heap. -/
def store : Detached → Heap → Datum × Heap
  | .null, h => (.nil, h)
  | .bool b, h => (.bool b, h)
  | .int i, h => (.int i, h)
  | .float x, h => (.float x, h)
  | .str s, h => (.ofString s, h)
  | .list items, h =>
    let (ds, h) := storeItems items h
    h.push (Table.ofList ds)
  | .map entries, h =>
    let (es, h) := storeEntries entries h
    h.push (Table.ofNames es)

/-- Stores the items of a list. -/
def storeItems : List Detached → Heap → List Datum × Heap
  | [], h => ([], h)
  | v :: vs, h =>
    let (d, h) := store v h
    let (ds, h) := storeItems vs h
    (d :: ds, h)

/-- Stores the entries of a map. -/
def storeEntries : List (String × Detached) → Heap → List (String × Datum) × Heap
  | [], h => ([], h)
  | (k, v) :: es, h =>
    let (d, h) := store v h
    let (ds, h) := storeEntries es h
    ((k, d) :: ds, h)

end

end TextTemplate.Embedded
