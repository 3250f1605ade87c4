import TextTemplate.Document.Fault
import TextTemplate.Document.Toml
set_option autoImplicit false

/-!
# Section: tables while a document is being read

A table can come into being in three ways: by a header of its own or in braces, by the header of a
table inside it, and by a dotted key.  Which way decides what may still be added: no table is
defined twice, a table with a header is not extended by dotted keys, and one from dotted keys gets
no header.  The keys of a table stand in the order in which the document first names them, except
that a table takes its place anew when it gets a header after the tables inside it had theirs.
-/

namespace TextTemplate.Document.Toml

mutual

/-- What a key of an unfinished table holds: a finished value, a table, or the tables of an array
that is written header by header, the latest one first. -/
inductive Item where
  | value (v : Toml)
  | table (t : Section)
  | tables (ts : List Section)

/-- An unfinished table.  It is implicit if only the header of an inner table or a dotted key has
named it so far, and dotted if a dotted key did. -/
inductive Section where
  | mk (implicit dotted : Bool) (entries : List (String × Item))

end

namespace Section

/-- A table with nothing in it that has a header or braces of its own. -/
def empty : Section := mk false false []

instance : Inhabited Section := ⟨empty⟩

instance : Inhabited Item := ⟨.table default⟩

def isImplicit : Section → Bool
  | mk implicit _ _ => implicit

def isDotted : Section → Bool
  | mk _ dotted _ => dotted

def entries : Section → List (String × Item)
  | mk _ _ entries => entries

/-- The table with other entries. -/
def withEntries : Section → List (String × Item) → Section
  | mk implicit dotted _, entries => mk implicit dotted entries

/-- What `key` holds. -/
def find? (s : Section) (key : String) : Option Item := Entries.find? key s.entries

/-- The entries with `item` under `key`: in the place of the key, or at the end if it is new. -/
def put (key : String) (item : Item) : List (String × Item) → List (String × Item)
  | [] => [(key, item)]
  | (k, i) :: es => if key = k then (key, item) :: es else (k, i) :: put key item es

/-- The table with `item` under `key`. -/
def insert (s : Section) (key : String) (item : Item) : Section :=
  s.withEntries (put key item s.entries)

/-- The table with `item` under `key` as its last entry. -/
def insertLast (s : Section) (key : String) (item : Item) : Section :=
  s.withEntries (Entries.erase key s.entries ++ [(key, item)])

/-! ## Finished tables -/

mutual

/-- The node that an item has become. -/
def finishItem : Item → Toml
  | .value v => v
  | .table t => .table (finish t)
  | .tables ts => .arr (finishAll ts).reverse

/-- The entries of a finished table. -/
def finish : Section → List (String × Toml)
  | mk _ _ entries => finishEntries entries

/-- The entries of a finished table, one by one. -/
def finishEntries : List (String × Item) → List (String × Toml)
  | [] => []
  | (k, item) :: es => (k, finishItem item) :: finishEntries es

/-- The nodes of the tables of an array. -/
def finishAll : List Section → List Toml
  | [] => []
  | t :: ts => .table (finish t) :: finishAll ts

end

/-! ## Adding to a table -/

/-- Changes the table that `path` leads to, making the tables on the way that are not there yet.  In
an array the way goes on in the latest table.  A dotted key does not lead into a table that has a
header or braces. -/
def modifyAt (dotted : Bool) (change : Section → Except Fault Section) :
    List String → Section → Except Fault Section
  | [], s => change s
  | key :: path, s =>
    match s.find? key with
    | none => do
      let inner ← modifyAt dotted change path (mk true dotted [])
      return s.insert key (.table inner)
    | some (.table t) =>
      if dotted && !t.isImplicit then .error (.duplicate key)
      else do
        let inner ← modifyAt dotted change path t
        return s.insert key (.table inner)
    | some (.tables (t :: ts)) => do
      let inner ← modifyAt dotted change path t
      return s.insert key (.tables (inner :: ts))
    | some (.tables []) | some (.value _) => .error (.duplicate key)

/-- Adds a value under a key whose last part is `key`.  The parts before it must lead to a table
that dotted keys have made. -/
def addValue (path : List String) (key : String) (v : Toml) (s : Section) :
    Except Fault Section :=
  modifyAt true
    (fun t =>
      if t.isDotted == path.isEmpty then .error (.duplicate key)
      else match t.find? key with
        | some _ => .error (.duplicate key)
        | none => .ok (t.insert key (.value v)))
    path s

/-- The finished value of a table in braces. -/
def inBraces (pairs : List (List String × String × Toml)) : Except Fault Toml := do
  let s ← pairs.foldlM (fun s (path, key, v) => s.addValue path key v) empty
  return .table s.finish

end Section

/-! ## Tables with headers -/

/-- A document read so far: everything but the current table, and the current table with its path.
The table before the first header has no path. -/
structure Outline where
  root : Section
  current : Section
  place : Option (List String × String)
  isArray : Bool
  deriving Inhabited

namespace Outline

/-- Nothing is read. -/
def empty : Outline := ⟨.empty, .empty, none, false⟩

/-- Puts the current table into its place. -/
def close (o : Outline) : Except Fault Section :=
  match o.place with
  | none => .ok o.current
  | some (path, key) =>
    Section.modifyAt false
      (fun parent =>
        match parent.find? key with
        | none => .ok (parent.insert key (if o.isArray then .tables [o.current] else
            .table o.current))
        | some (.tables ts) =>
          if o.isArray then .ok (parent.insert key (.tables (o.current :: ts)))
          else .error (.duplicate key)
        | some (.table t) =>
          if !o.isArray && t.isImplicit then .ok (parent.insertLast key (.table o.current))
          else .error (.duplicate key)
        | some (.value _) => .error (.duplicate key))
      path o.root

/-- The table that a header takes up again: one that only headers of inner tables have named. -/
def reopened (parent : Section) (key : String) : Except Fault Section :=
  match parent.find? key with
  | none => .ok .empty
  | some (.table (.mk true false entries)) => .ok (.mk false false entries)
  | some _ => .error (.duplicate key)

/-- The table that `path` leads to, as headers see it. -/
def tableAt : List String → Section → Except Fault Section
  | [], s => .ok s
  | key :: path, s =>
    match s.find? key with
    | none => .ok .empty
    | some (.table t) => tableAt path t
    | some (.tables (t :: _)) => tableAt path t
    | some (.tables []) | some (.value _) => .error (.duplicate key)

/-- Begins the table of a header. -/
def beginTable (o : Outline) (path : List String) (key : String) : Except Fault Outline := do
  let root ← o.close
  let parent ← tableAt path root
  let current ← reopened parent key
  return ⟨root, current, some (path, key), false⟩

/-- Begins the next table of an array. -/
def beginArrayTable (o : Outline) (path : List String) (key : String) :
    Except Fault Outline := do
  let root ← o.close
  let parent ← tableAt path root
  match parent.find? key with
  | none | some (.tables _) => return ⟨root, .empty, some (path, key), true⟩
  | some _ => .error (.duplicate key)

/-- Adds a value to the current table. -/
def addValue (o : Outline) (path : List String) (key : String) (v : Toml) :
    Except Fault Outline := do
  return { o with current := ← o.current.addValue path key v }

/-- The finished document. -/
def finish (o : Outline) : Except Fault (List (String × Toml)) := do
  return (← o.close).finish

end Outline

end TextTemplate.Document.Toml
