import TextTemplate.Embedded.Machine
import TextTemplate.Embedded.Operator
set_option autoImplicit false

/-!
# Evaluation: running a chunk

An evaluator evaluates expressions, runs blocks, calls functions and assigns items.  What is nested
in an expression or a block, and what a call runs, is left to an evaluator one level below, and the
lowest level refuses everything; so every run ends, and one that nests too deeply is a fault.
Operands, arguments and assigned values are evaluated from left to right, and the targets of an
assignment are set from right to left.
-/

namespace TextTemplate.Embedded

/-- How to evaluate.  A block gives the values that it returns, if it returns. -/
structure Evaluator where
  values : Scope → Expression → Run (List Datum)
  block : Scope → List Statement → Run (Option (List Datum))
  call : Datum → List Datum → Run (List Datum)
  assign : (object key value : Datum) → Run Unit

/-- How a datum is written. -/
def Datum.written : Datum → String
  | nil => "nil"
  | bool b => if b then "true" else "false"
  | int i => Number.text (.int i)
  | float x => Number.text (.float x)
  | str bytes => bytes.toString?.getD "text that is not UTF-8"
  | table id => "table: " ++ toString id
  | function (.builtin b) => "function: " ++ b.name
  | function (.closure id) => "function: " ++ toString id

/-- The text of a datum: of a text itself, of any other how it is written. -/
def Datum.text : Datum → Bytes
  | str bytes => bytes
  | d => Bytes.ofString d.written

namespace Evaluator

variable (inner : Evaluator)

/-- The first value of an expression; without any, nothing. -/
def value (scope : Scope) (e : Expression) : Run Datum :=
  return (← inner.values scope e).headD .nil

/-- The values of a list of expressions: one each, and of the last one all. -/
def valueList (scope : Scope) : List Expression → Run (List Datum)
  | [] => return []
  | [e] => inner.values scope e
  | e :: es => do
    let d ← inner.value scope e
    return d :: (← valueList scope es)

/-! ## Tables -/

/-- An item of what can be indexed.  A text has no items, but can be indexed. -/
def item (object key : Datum) : Run Datum := do
  match object with
  | .table id =>
    match key.key? with
    | some k => return (← Run.table id).get k
    | none => return .nil
  | .str _ => return .nil
  | _ => throw (.index object.typeName)

/-- Stores an item in a table, without asking its metatable. -/
def store (id : Nat) (key value : Datum) : Run Unit := do
  match key.key? with
  | none => throw .key
  | some k => Run.replaceTable id ((← Run.table id).set k value)

/-- What the metatable of a table names for new keys. -/
def newKeyHandler (t : Table) : Run Datum := do
  match t.metatable with
  | none => return .nil
  | some id => return (← Run.table id).get (.ofString "__newindex")

/-- Assigns an item.  If its key is not present, a handler for new keys takes the assignment: a
function is called, and in anything else the item is assigned instead. -/
def assignHere (object key value : Datum) : Run Unit := do
  match object with
  | .table id =>
    let t ← Run.table id
    if (key.key?.bind t.get?).isSome then store id key value
    else match ← newKeyHandler t with
      | .nil => store id key value
      | .function f => do
        let _ ← inner.call (.function f) [object, key, value]
      | other => inner.assign other key value
  | _ => throw (.index object.typeName)

/-- How many items in sequence are gathered before they are stored. -/
def batch : Nat := 50

/-- Stores items in sequence behind the first `stored` ones. -/
def storeItems (id : Nat) : (stored : Nat) → List Datum → Run Unit
  | _, [] => return ()
  | stored, d :: ds => do
    store id (.int (Int64.ofNat (stored + 1))) d
    storeItems id (stored + 1) ds

/-- Fills a table.  Entries are stored at once.  Items in sequence are gathered, and stored before
the field that follows a full batch and at the end; of the last field, all values are items. -/
def fill (scope : Scope) (id : Nat) : (stored : Nat) → (gathered : List Datum) → List Field →
    Run Unit
  | stored, gathered, [] => storeItems id stored gathered
  | stored, gathered, [.item e] => do
    let ds ← inner.values scope e
    storeItems id stored (gathered ++ ds)
  | stored, gathered, f :: fs => do
    let full := gathered.length = batch
    if full then storeItems id stored gathered
    let stored := if full then stored + batch else stored
    let gathered := if full then [] else gathered
    match f with
    | .item e =>
      let d ← inner.value scope e
      fill scope id stored (gathered ++ [d]) fs
    | .entry k e =>
      let key ← inner.value scope k
      store id key (← inner.value scope e)
      fill scope id stored gathered fs

/-! ## Calls -/

/-- Calls one of the functions that are there from the beginning.  What is printed goes nowhere. -/
def callBuiltin (b : Builtin) (arguments : List Datum) : Run (List Datum) := do
  match b, arguments with
  | .type, d :: _ => return [.ofString d.typeName]
  | .tostring, d :: _ => return [.str d.text]
  | .error, ds => throw (.raised (ds.headD .nil).written)
  | .print, _ => return []
  | .setmetatable, .table id :: .table metatable :: _ =>
    Run.replaceTable id { (← Run.table id) with metatable := some metatable }
    return [.table id]
  | .setmetatable, .table id :: .nil :: _ =>
    Run.replaceTable id { (← Run.table id) with metatable := none }
    return [.table id]
  | b, _ => throw (.argument b)

/-- Calls a function. -/
def callHere (function : Datum) (arguments : List Datum) : Run (List Datum) := do
  match function with
  | .function (.builtin b) => callBuiltin b arguments
  | .function (.closure id) =>
    let c := (← get).closures.getD id default
    let scope ← Run.bind c.scope c.parameters arguments
    return (← inner.block scope c.body).getD []
  | d => throw (.call d.typeName)

/-! ## Expressions -/

/-- Applies a unary operator. -/
def applyUnary (op : UnaryOp) (d : Datum) : Run Datum := do
  match op, d with
  | .not, d => return .bool !d.isTrue
  | .negate, d =>
    match d.toNumber with
    | .ok n => return .ofNumber n.neg
    | .error f => throw f
  | .complement, d =>
    match d.toBits with
    | .ok i => return .int (~~~i)
    | .error f => throw f
  | .length, .str bytes => return .int (Int64.ofNat bytes.length)
  | .length, .table id => return .int (Int64.ofNat (← Run.table id).border)
  | .length, d => throw (.length d.typeName)

/-- Applies a binary operator.  The second operand of a logical one is evaluated only if the first
does not decide. -/
def binary (scope : Scope) (op : BinaryOp) (left right : Expression) : Run Datum := do
  let a ← inner.value scope left
  match op, a.isTrue with
  | .or, true | .and, false => return a
  | op, _ =>
    let b ← inner.value scope right
    match op.apply a b with
    | .ok d => return d
    | .error f => throw f

/-- The values of an expression. -/
def valuesHere (scope : Scope) (e : Expression) : Run (List Datum) := do
  match e with
  | .nil => return [.nil]
  | .bool b => return [.bool b]
  | .number n => return [.ofNumber n]
  | .text bytes => return [.str bytes]
  | .name x => return [← Run.lookup scope x]
  | .index object key =>
    let o ← inner.value scope object
    return [← item o (← inner.value scope key)]
  | .call function arguments =>
    let f ← inner.value scope function
    inner.call f (← inner.valueList scope arguments)
  | .method object name arguments =>
    let o ← inner.value scope object
    let f ← item o (.ofString name)
    inner.call f (o :: (← inner.valueList scope arguments))
  | .function parameters body => return [← Run.newClosure ⟨parameters, body, scope⟩]
  | .table fields =>
    let id := (← get).heap.size
    let d ← Run.newTable {}
    inner.fill scope id 0 [] fields
    return [d]
  | .unary op operand => return [← applyUnary op (← inner.value scope operand)]
  | .binary op left right => return [← inner.binary scope op left right]
  | .parentheses e => return [← inner.value scope e]

/-! ## Statements -/

/-- A target of an assignment whose parts are evaluated. -/
inductive Place where
  | variable (id : Nat)
  | item (object key : Datum)

/-- Evaluates the parts of a target. -/
def place (scope : Scope) (target : Expression) : Run Place := do
  match target with
  | .index object key =>
    let o ← inner.value scope object
    return .item o (← inner.value scope key)
  | .name x =>
    match scope.lookup x with
    | some id => return .variable id
    | none => return .item (.table globals) (.ofString x)
  | e => return .item (← inner.value scope e) .nil

/-- Evaluates the parts of targets. -/
def places (scope : Scope) : List Expression → Run (List Place)
  | [] => return []
  | e :: es => do
    let p ← inner.place scope e
    return p :: (← places scope es)

/-- Sets places to data, the last place first; a place without a datum is set to nothing. -/
def setPlaces : List Place → List Datum → Run Unit
  | [], _ => return ()
  | p :: ps, ds => do
    setPlaces ps ds.tail
    let d := ds.headD .nil
    match p with
    | .variable id =>
      modify fun m => { m with locals := m.locals.setIfInBounds id d }
    | .item object key => inner.assign object key d

/-- The block of the first case whose condition is true. -/
def chosen (scope : Scope) (otherwise : List Statement) :
    List (Expression × List Statement) → Run (List Statement)
  | [] => return otherwise
  | (condition, body) :: cases => do
    if (← inner.value scope condition).isTrue then return body
    chosen scope otherwise cases

/-- Runs a statement.  It gives the values that it returns, if it returns, and the names in sight
behind it. -/
def statement (scope : Scope) (s : Statement) : Run (Option (List Datum) × Scope) := do
  match s with
  | .assignLocal names values =>
    let ds ← inner.valueList scope values
    return (none, ← Run.bind scope names ds)
  | .assign targets values =>
    let ps ← inner.places scope targets
    let ds ← inner.valueList scope values
    inner.setPlaces ps ds
    return (none, scope)
  | .run call =>
    let _ ← inner.values scope call
    return (none, scope)
  | .block body => return (← inner.block scope body, scope)
  | .branch cases otherwise =>
    let body ← inner.chosen scope otherwise cases
    return (← inner.block scope body, scope)
  | .return_ values => return (some (← inner.valueList scope values), scope)

/-- Runs statements up to the first one that returns. -/
def blockHere : Scope → List Statement → Run (Option (List Datum))
  | _, [] => return none
  | scope, s :: ss => do
    match ← inner.statement scope s with
    | (some ds, _) => return some ds
    | (none, scope) => blockHere scope ss

/-- The evaluator for what is nested within `depth` levels. -/
def ofDepth : (depth : Nat) → Evaluator
  | 0 => ⟨fun _ _ => throw .overflow, fun _ _ => throw .overflow, fun _ _ => throw .overflow,
      fun _ _ _ => throw .overflow⟩
  | depth + 1 =>
    let inner := ofDepth depth
    ⟨inner.valuesHere, inner.blockHere, inner.callHere, inner.assignHere⟩

end Evaluator

/-- How deeply calls and expressions may be nested in a run. -/
def maxDepth : Nat := 20000

/-- How scripts are evaluated. -/
def evaluator : Evaluator := Evaluator.ofDepth maxDepth

/-- Runs a chunk and gives the first value that it returns; without any, nothing. -/
def runChunk (chunk : Chunk) : Run Datum :=
  return ((← evaluator.block [] chunk).getD []).headD .nil

/-- Assigns a global name. -/
def setGlobal (name : String) (d : Datum) : Run Unit :=
  evaluator.assign (.table globals) (.ofString name) d

end TextTemplate.Embedded
