import TextTemplate.Embedded.Chunk
import TextTemplate.Embedded.Token.Reader
set_option autoImplicit false

/-!
# Reader: what the tokens of a script say

An operator takes the operands that bind at least as tightly as itself: every binary operator has a
strength towards each side, and one whose strength to the left is the greater one groups from the
right.  Expressions and statements nest within a limit.  A level of the grammar reads what may stand
at some nesting depth with the help of the level below, which reads what is nested in it.
-/

namespace TextTemplate.Embedded.Chunk

/-- Takes tokens and returns what they say. -/
abbrev Reader := StateT (List Token) (Except ReadFault)

namespace Reader

def fail {α : Type} (f : ReadFault) : Reader α := fun _ => .error f

/-- The next token, if there is one; it is not taken. -/
def peek? : Reader (Option Token) := fun ts => .ok (ts.head?, ts)

/-- Takes the next token. -/
def skip : Reader Unit := modify (·.drop 1)

/-- Takes `t` if it comes next. -/
def accept (t : Token) : Reader Bool
  | [] => .ok (false, [])
  | u :: ts => if u == t then .ok (true, ts) else .ok (false, u :: ts)

/-- Takes `t`. -/
def expect (t : Token) : Reader Unit := do
  unless ← accept t do fail .token

def acceptSymbol (s : String) : Reader Bool := accept (.symbol s)

def expectSymbol (s : String) : Reader Unit := expect (.symbol s)

def acceptWord (w : String) : Reader Bool := accept (.reserved w)

def expectWord (w : String) : Reader Unit := expect (.reserved w)

/-- Takes a name. -/
def name : Reader String
  | .name x :: ts => .ok (x, ts)
  | _ => .error .token

/-- Repeats a step until it has nothing more to take, but at most `limit` times. -/
def iterate {α : Type} (step : α → Reader (Option α)) : (limit : Nat) → α → Reader α
  | 0, a => return a
  | limit + 1, a => do
    match ← step a with
    | some a => iterate step limit a
    | none => return a

/-- Takes what `item` takes, each time behind a comma, and adds it to `items` in reverse. -/
def moreItems {α : Type} (item : Reader α) (limit : Nat) (items : List α) : Reader (List α) :=
  iterate (fun items => do
    if ← acceptSymbol "," then return some ((← item) :: items) else return none) limit items

/-- Takes what `item` takes, once or more, with commas between. -/
def separated {α : Type} (item : Reader α) (limit : Nat) : Reader (List α) := do
  return (← moreItems item limit [← item]).reverse

end Reader

open Reader

/-! ## Operators -/

def unaryOp? : Token → Option UnaryOp
  | .reserved "not" => some .not
  | .symbol "-" => some .negate
  | .symbol "~" => some .complement
  | .symbol "#" => some .length
  | _ => none

def binaryOp? : Token → Option BinaryOp
  | .reserved "or" => some .or
  | .reserved "and" => some .and
  | .symbol "<" => some .less
  | .symbol ">" => some .greater
  | .symbol "<=" => some .lessEqual
  | .symbol ">=" => some .greaterEqual
  | .symbol "==" => some .equal
  | .symbol "~=" => some .unequal
  | .symbol "|" => some .bitOr
  | .symbol "~" => some .bitXor
  | .symbol "&" => some .bitAnd
  | .symbol "<<" => some .shiftLeft
  | .symbol ">>" => some .shiftRight
  | .symbol ".." => some .concat
  | .symbol "+" => some .add
  | .symbol "-" => some .sub
  | .symbol "*" => some .mul
  | .symbol "/" => some .div
  | .symbol "//" => some .floorDiv
  | .symbol "%" => some .mod
  | .symbol "^" => some .pow
  | _ => none

/-- How strongly an operator binds to its left and to its right. -/
def strengths : BinaryOp → Nat × Nat
  | .or => (1, 1)
  | .and => (2, 2)
  | .less | .greater | .lessEqual | .greaterEqual | .equal | .unequal => (3, 3)
  | .bitOr => (4, 4)
  | .bitXor => (5, 5)
  | .bitAnd => (6, 6)
  | .shiftLeft | .shiftRight => (7, 7)
  | .concat => (9, 8)
  | .add | .sub => (10, 10)
  | .mul | .div | .floorDiv | .mod => (11, 11)
  | .pow => (14, 13)

/-- How strongly a unary operator binds. -/
def unaryStrength : Nat := 12

/-! ## A level of the grammar -/

/-- What reads the expressions and statements at some nesting depth.  An expression takes the
operators that bind more strongly than a bound.  No repetition takes more steps than `limit`, the
count of tokens. -/
structure Level where
  limit : Nat
  expression : (bound : Nat) → Reader Expression
  statement : Reader Statement

namespace Level

variable (inner : Level)

/-- An expression in full. -/
def whole : Reader Expression := inner.expression 0

/-- Do the statements of a block end here? -/
def atBlockEnd : Reader Bool := do
  match ← peek? with
  | none => return true
  | some (.reserved w) => return ["else", "elseif", "end", "until"].contains w
  | some _ => return false

/-- Takes a statement of a block and puts it before those that are there; a return statement is the
last one. -/
def addStatement (statements : List Statement) : Reader (Option (List Statement)) := do
  if (← atBlockEnd) || statements.head?.any Statement.isReturn then return none
  if ← acceptSymbol ";" then return some statements
  return some ((← inner.statement) :: statements)

/-- Takes the statements of a block. -/
def block : Reader (List Statement) :=
  return (← iterate inner.addStatement inner.limit []).reverse

/-! ### Expressions -/

/-- Takes one item of a table. -/
def field : Reader Field := do
  match ← get with
  | .name x :: .symbol "=" :: rest =>
    set rest
    return .entry (.text (Bytes.ofString x)) (← inner.whole)
  | .symbol "[" :: rest =>
    set rest
    let key ← inner.whole
    expectSymbol "]"
    expectSymbol "="
    return .entry key (← inner.whole)
  | _ => return .item (← inner.whole)

/-- Takes a comma or a semicolon if one comes next. -/
def acceptFieldEnd : Reader Bool := do
  if ← acceptSymbol "," then return true
  acceptSymbol ";"

/-- Takes the items of a table after its opening brace, and the closing one. -/
def fields : (limit : Nat) → Reader (List Field)
  | 0 => fail .unfinished
  | limit + 1 => do
    if ← acceptSymbol "\x7d" then return []
    let f ← inner.field
    if ← acceptFieldEnd then return f :: (← fields limit)
    expectSymbol "\x7d"
    return [f]

/-- Takes a table after its opening brace. -/
def table : Reader Expression :=
  return .table (← inner.fields inner.limit)

/-- Takes the parameters and the body of a function. -/
def function : Reader Expression := do
  expectSymbol "("
  let parameters ← if ← acceptSymbol ")" then pure [] else do
    let names ← separated name inner.limit
    expectSymbol ")"
    pure names
  let body ← inner.block
  expectWord "end"
  return .function parameters body

/-- Takes the arguments of a call, if one stands here. -/
def arguments? : Reader (Option (List Expression)) := do
  match ← peek? with
  | some (.text bytes) =>
    skip
    return some [.text bytes]
  | some (.symbol "\x7b") =>
    skip
    return some [← inner.table]
  | some (.symbol "(") =>
    skip
    if ← acceptSymbol ")" then return some []
    let values ← separated inner.whole inner.limit
    expectSymbol ")"
    return some values
  | _ => return none

/-- Takes an index or a call behind an expression, if there is one. -/
def suffix (e : Expression) : Reader (Option Expression) := do
  match ← peek? with
  | some (.symbol ".") =>
    skip
    return some (.index e (.text (Bytes.ofString (← name))))
  | some (.symbol "[") =>
    skip
    let key ← inner.whole
    expectSymbol "]"
    return some (.index e key)
  | some (.symbol ":") =>
    skip
    let x ← name
    match ← inner.arguments? with
    | some values => return some (.method e x values)
    | none => fail .token
  | _ => return (← inner.arguments?).map (.call e)

/-- Takes a name or an expression in parentheses, and all that is indexed and called behind it. -/
def suffixed : Reader Expression := do
  let e ← if ← acceptSymbol "(" then do
      let e ← inner.whole
      expectSymbol ")"
      pure (.parentheses e)
    else do pure (.name (← name))
  iterate inner.suffix inner.limit e

/-- Takes an expression without operators. -/
def operand : Reader Expression := do
  match ← peek? with
  | some (.number n) => skip; return .number n
  | some (.text bytes) => skip; return .text bytes
  | some (.reserved "nil") => skip; return .nil
  | some (.reserved "true") => skip; return .bool true
  | some (.reserved "false") => skip; return .bool false
  | some (.reserved "function") => skip; inner.function
  | some (.symbol "\x7b") => skip; inner.table
  | _ => inner.suffixed

/-- Takes a binary operator that binds more strongly than `bound`, and its right operand. -/
def operation (bound : Nat) (left : Expression) : Reader (Option Expression) := do
  match (← peek?).bind binaryOp? with
  | none => return none
  | some op =>
    let (toLeft, toRight) := strengths op
    if toLeft ≤ bound then return none
    skip
    return some (.binary op left (← inner.expression toRight))

/-- Takes an expression with the operators that bind more strongly than `bound`. -/
def expressionHere (bound : Nat) : Reader Expression := do
  let left ← match (← peek?).bind unaryOp? with
    | some op => do
      skip
      pure (.unary op (← inner.expression unaryStrength))
    | none => inner.operand
  iterate (inner.operation bound) inner.limit left

/-! ### Statements -/

/-- Takes the cases of a branch after the first one's opening word, and all that follows. -/
def branch : (limit : Nat) → Reader (List (Expression × List Statement) × List Statement)
  | 0 => fail .unfinished
  | limit + 1 => do
    let condition ← inner.whole
    expectWord "then"
    let body ← inner.block
    if ← acceptWord "elseif" then
      let (cases, otherwise) ← branch limit
      return ((condition, body) :: cases, otherwise)
    let otherwise ← if ← acceptWord "else" then inner.block else pure []
    expectWord "end"
    return ([(condition, body)], otherwise)

/-- Takes the values of a return statement after its word. -/
def returned : Reader Statement := do
  let next ← peek?
  let values ← if (← atBlockEnd) || next == some (.symbol ";") then pure []
    else separated inner.whole inner.limit
  let _ ← acceptSymbol ";"
  return .return_ values

/-- Takes the names of local variables and what they are set to, after the opening word. -/
def assignLocal : Reader Statement := do
  let names ← separated name inner.limit
  let values ← if ← acceptSymbol "=" then separated inner.whole inner.limit else pure []
  return .assignLocal names values

/-- Takes an assignment or a call. -/
def assignmentOrCall : Reader Statement := do
  let e ← inner.suffixed
  let next ← peek?
  if next == some (.symbol "=") || next == some (.symbol ",") then
    let targets := (← moreItems inner.suffixed inner.limit [e]).reverse
    unless targets.all Expression.isTarget do fail .token
    expectSymbol "="
    return .assign targets (← separated inner.whole inner.limit)
  else if e.isCall then return .run e
  else fail .token

/-- Takes a statement. -/
def statementHere : Reader Statement := do
  match ← peek? with
  | some (.reserved "local") => skip; inner.assignLocal
  | some (.reserved "return") => skip; inner.returned
  | some (.reserved "do") =>
    skip
    let body ← inner.block
    expectWord "end"
    return .block body
  | some (.reserved "if") =>
    skip
    let (cases, otherwise) ← inner.branch inner.limit
    return .branch cases otherwise
  | _ => inner.assignmentOrCall

/-- The level of the grammar at which `depth` levels may be nested in one another. -/
def ofDepth (limit : Nat) : (depth : Nat) → Level
  | 0 => ⟨limit, fun _ => fail .depth, fail .depth⟩
  | depth + 1 =>
    let inner := ofDepth limit depth
    ⟨limit, inner.expressionHere, inner.statementHere⟩

end Level

/-- How deeply expressions and statements may be nested. -/
def maxDepth : Nat := 199

/-- Reads a script. -/
def read (source : String) : Except ReadFault Chunk := do
  let ts ← Token.ofText source
  match ← (Level.ofDepth (ts.length + 1) maxDepth).block ts with
  | (chunk, []) => return chunk
  | _ => .error .token

/-- Reads a script that is evaluated: as an expression if it is one. -/
def readEvaluated (source : String) : Except ReadFault Chunk :=
  match read ("return " ++ source) with
  | .ok chunk => .ok chunk
  | .error _ => read source

end TextTemplate.Embedded.Chunk
