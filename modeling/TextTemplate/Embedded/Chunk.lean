import TextTemplate.Embedded.Number
import TextTemplate.Text.Bytes
set_option autoImplicit false

/-!
# Chunk: what a script says

An expression denotes a list of values, of which most places take the first; a call may denote any
count, and an expression in parentheses exactly one.  A chunk is a list of statements.
-/

namespace TextTemplate.Embedded

inductive UnaryOp where
  | negate
  | complement
  | not
  | length
  deriving DecidableEq, Repr, Inhabited

inductive BinaryOp where
  | or
  | and
  | less
  | greater
  | lessEqual
  | greaterEqual
  | equal
  | unequal
  | bitOr
  | bitXor
  | bitAnd
  | shiftLeft
  | shiftRight
  | concat
  | add
  | sub
  | mul
  | div
  | floorDiv
  | mod
  | pow
  deriving DecidableEq, Repr, Inhabited

mutual

inductive Expression where
  | nil
  | bool (b : Bool)
  | number (n : Number)
  | text (bytes : Bytes)
  | name (x : String)
  | index (object key : Expression)
  | call (function : Expression) (arguments : List Expression)
  | method (object : Expression) (name : String) (arguments : List Expression)
  | function (parameters : List String) (body : List Statement)
  | table (fields : List Field)
  | unary (op : UnaryOp) (operand : Expression)
  | binary (op : BinaryOp) (left right : Expression)
  | parentheses (e : Expression)

/-- An item of a table in braces: one in sequence, or one under a key. -/
inductive Field where
  | item (value : Expression)
  | entry (key value : Expression)

inductive Statement where
  | assignLocal (names : List String) (values : List Expression)
  | assign (targets values : List Expression)
  | run (call : Expression)
  | block (body : List Statement)
  | branch (cases : List (Expression × List Statement)) (otherwise : List Statement)
  | return_ (values : List Expression)

end

instance : Inhabited Expression := ⟨.nil⟩

instance : Inhabited Field := ⟨.item .nil⟩

instance : Inhabited Statement := ⟨.block []⟩

namespace Expression

/-- May a value be assigned to the expression?  To names and items of tables it may. -/
def isTarget : Expression → Bool
  | name _ | index _ _ => true
  | _ => false

/-- Is the expression a call, which may stand as a statement? -/
def isCall : Expression → Bool
  | call _ _ | method _ _ _ => true
  | _ => false

end Expression

/-- Does the statement end the block it stands in? -/
def Statement.isReturn : Statement → Bool
  | return_ _ => true
  | _ => false

/-- A script. -/
abbrev Chunk := List Statement

end TextTemplate.Embedded
