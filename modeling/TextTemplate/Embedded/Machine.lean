import TextTemplate.Embedded.Chunk
import TextTemplate.Embedded.Fault
import TextTemplate.Embedded.Table
set_option autoImplicit false

/-!
# Machine: what lives between the scripts of a session

Tables, local variables and functions are referred to by number, so that several can share one.  The
global names are the entries of one table, the first.  A run of a script changes the machine step by
step; a fault ends the run and keeps what was done before it.
-/

namespace TextTemplate.Embedded

/-- The tables, by number. -/
abbrev Heap := Array Table

namespace Heap

/-- The table with a number; one that was never made is empty. -/
def table (h : Heap) (id : Nat) : Table := h[id]?.getD {}

/-- The heap with one table more, and a reference to that one. -/
def push (h : Heap) (t : Table) : Datum × Heap := (.table h.size, Array.push h t)

/-- The heap with a table in place of another. -/
def replace (h : Heap) (id : Nat) (t : Table) : Heap := h.setIfInBounds id t

end Heap

/-- The local names of a piece of a script with the numbers of their variables, innermost first. -/
abbrev Scope := List (String × Nat)

/-- A function of a script, with the names in sight where it was written. -/
structure Closure where
  parameters : List String
  body : List Statement
  scope : Scope
  deriving Inhabited

/-- The state of a session. -/
structure Machine where
  heap : Heap
  locals : Array Datum
  closures : Array Closure
  deriving Inhabited

/-- The table of the global names. -/
def globals : Nat := 0

namespace Machine

/-- The global names of a new session. -/
def initialGlobals : Table :=
  Table.ofEntries ((Key.ofString "_G", .table globals)
    :: Builtin.all.map fun b => (Key.ofString b.name, .function (.builtin b)))

/-- A new session. -/
def initial : Machine := ⟨#[initialGlobals], #[], #[]⟩

end Machine

/-- A run of a script or a part of one. -/
abbrev Run := ExceptT Fault (StateM Machine)

namespace Run

/-- The table with a number. -/
def table (id : Nat) : Run Table := return (← get).heap.table id

/-- Makes a table. -/
def newTable (t : Table) : Run Datum :=
  modifyGet fun m =>
    let (d, heap) := m.heap.push t
    (d, { m with heap })

/-- Puts a table in place of another. -/
def replaceTable (id : Nat) (t : Table) : Run Unit :=
  modify fun m => { m with heap := m.heap.replace id t }

/-- Makes a variable. -/
def newVariable (d : Datum) : Run Nat :=
  modifyGet fun m => (m.locals.size, { m with locals := m.locals.push d })

/-- Makes a function. -/
def newClosure (c : Closure) : Run Datum :=
  modifyGet fun m =>
    (.function (.closure m.closures.size), { m with closures := m.closures.push c })

/-- Makes variables for names; a name without a datum is set to nothing. -/
def bind (scope : Scope) : List String → List Datum → Run Scope
  | [], _ => return scope
  | x :: xs, ds => do
    let id ← newVariable (ds.headD .nil)
    bind ((x, id) :: scope) xs ds.tail

/-- What a name stands for: the innermost variable of that name, or else the global. -/
def lookup (scope : Scope) (x : String) : Run Datum := do
  match scope.lookup x with
  | some id => return (← get).locals.getD id .nil
  | none => return (← table globals).get (.ofString x)

end Run

end TextTemplate.Embedded
