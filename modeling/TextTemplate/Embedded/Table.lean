import TextTemplate.Embedded.Datum
set_option autoImplicit false

/-!
# Table: entries under keys

A table keeps its entries in the order in which their keys were first used.  Nothing is never
stored: storing it removes what was there.  A border is the length of a sequence: an index that is present,
or zero, with the next index absent; a table with holes has several, and `border` is the first.
-/

namespace TextTemplate.Embedded

/-- A table.  Its metatable, a table itself, says what happens when a new key is used. -/
structure Table where
  entries : List (Key × Datum) := []
  metatable : Option Nat := none
  deriving Inhabited

namespace Table

/-- What is stored under a key. -/
def find? (k : Key) : List (Key × Datum) → Option Datum
  | [] => none
  | (l, d) :: es => if l = k then some d else find? k es

/-- Removes what is stored under a key. -/
def erase (k : Key) : List (Key × Datum) → List (Key × Datum)
  | [] => []
  | (l, d) :: es => if l = k then es else (l, d) :: erase k es

/-- Stores a datum under a key, in the place of what was there or at the end. -/
def insert (k : Key) (d : Datum) : List (Key × Datum) → List (Key × Datum)
  | [] => [(k, d)]
  | (l, e) :: es => if l = k then (k, d) :: es else (l, e) :: insert k d es

/-- What is stored under a key, if anything is. -/
def get? (t : Table) (k : Key) : Option Datum := find? k t.entries

/-- What is stored under a key; otherwise nothing. -/
def get (t : Table) (k : Key) : Datum := (t.get? k).getD .nil

/-- Stores a datum under a key. -/
def set (t : Table) (k : Key) (d : Datum) : Table :=
  { t with entries := if d.isNil then erase k t.entries else insert k d t.entries }

/-- The table with the given entries, of which those without a datum are left out. -/
def ofEntries (es : List (Key × Datum)) : Table := es.foldl (fun t e => t.set e.1 e.2) {}

/-! ## Sequences -/

/-- Is an index present? -/
def hasIndex (t : Table) (i : Nat) : Bool := (t.get? (.int (Int64.ofNat i))).isSome

/-- The first absent index after `n`, less one; at most `fuel` indices are tried. -/
def borderFrom (t : Table) : (fuel n : Nat) → Nat
  | 0, n => n
  | fuel + 1, n => if t.hasIndex (n + 1) then borderFrom t fuel (n + 1) else n

/-- The length of the sequence that begins at index one. -/
def border (t : Table) : Nat := t.borderFrom t.entries.length 0

/-- The index that a key is, if it is one of a sequence of length `n`. -/
def sequenceIndex? (n : Nat) : Key → Option Int
  | .int i => if 1 ≤ i.toInt ∧ i.toInt ≤ n then some i.toInt else none
  | _ => none

/-- The entries: first those of the sequence, by index, then all others as they are kept. -/
def pairs (t : Table) : List (Key × Datum) :=
  let n := t.border
  let sequence := (List.range n).filterMap fun i =>
    (t.get? (.int (Int64.ofNat (i + 1)))).map (Key.int (Int64.ofNat (i + 1)), ·)
  sequence ++ t.entries.filter fun e => (sequenceIndex? n e.1).isNone

end Table

end TextTemplate.Embedded
