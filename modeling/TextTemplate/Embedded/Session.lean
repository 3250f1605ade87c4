import TextTemplate.Embedded.Chunk.Reader
import TextTemplate.Embedded.Evaluation
import TextTemplate.Embedded.Returned
import TextTemplate.Embedded.Stored
import TextTemplate.Script.Session
set_option autoImplicit false

/-!
# Session: the embedded script language behind the bridge

The language is Lua without loops, labels and libraries.  The names that are registered with a
session are its global names.  Registering a name reads the objects in the value, and sets the
global as a script would set it, so a script can get in the way.  A script is read as an expression
if it is one; what it does before it fails stays done.  The tables of a result are followed wherever
they lead, so a result in which one contains itself is followed until the program has no room left.
-/

namespace TextTemplate.Embedded

open Script (Error Interpreter Session Factory)

variable {ω : Type}

/-- Sets a global name for the bridge. -/
def setName (name : String) (d : Datum) (m : Machine) : Except Error Unit × Machine :=
  match (setGlobal name d).run m with
  | (.ok (), m) => (.ok (), m)
  | (.error f, m) => (.error (.binding name f.message), m)

/-- Turns a result into a value.  If there is no end to it, it ends the program. -/
def returnResult (view : TableView) (heap : Heap) (d : Datum) :
    Logged ω (Except Error (Value ω)) := do
  let value := result view heap d
  if let .error .cycle := value then Logged.record .abort
  return value.mapError (.evaluation ·.message)

/-- Evaluates a script. -/
def evalScript (view : TableView) (source : String) (m : Machine) :
    Logged ω (Except Error (Value ω) × Machine) :=
  match Chunk.readEvaluated source with
  | .error f => return (.error (.evaluation f.message), m)
  | .ok chunk =>
    match (runChunk chunk).run m with
    | (.error f, m) => return (.error (.evaluation f.message), m)
    | (.ok d, m) => return (← returnResult view m.heap d, m)

/-- The interpreter.  Values in which more than `depth` objects are inside one another cannot be
registered. -/
def interpreter (host : Host ω) (view : TableView) (depth : Nat) : Interpreter ω Machine where
  set name v m := do
    match ← (v.detach host depth).run with
    | none => return (.error (.binding name "objects nested too deeply"), m)
    | some v =>
      let (d, heap) := store v m.heap
      return setName name d { m with heap }
  eval source m := evalScript view source m
  unset name m := return setName name .nil m

/-- How many objects may be inside one another. -/
def maxObjects : Nat := 1000

/-- A new session. -/
def session (host : Host ω) : Session ω Machine :=
  ⟨interpreter host TableView.standard maxObjects, Machine.initial⟩

/-- Makes a new session every time. -/
def factory (host : Host ω) : Factory ω Machine := ⟨.ok (session host)⟩

end TextTemplate.Embedded
