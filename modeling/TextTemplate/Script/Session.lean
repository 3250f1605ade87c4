import TextTemplate.Event
set_option autoImplicit false

/-!
# Session: the bridge to a script interpreter

Scripts are never read here; they are handed to a session as they are written.  A session has a
state and answers three calls, each of which may be refused: register a value under a name, evaluate
a script, and remove what is registered under a name.
-/

namespace TextTemplate.Script

/-- Why a script section gave no value. -/
inductive Error where
  | unavailable (reason : String)
  | evaluation (reason : String)
  | binding (name reason : String)
  deriving DecidableEq, Repr, Inhabited

namespace Error

/-- The name of the kind of an error. -/
def kind : Error → String
  | unavailable _ => "InterpreterUnavailable"
  | evaluation _ => "EvaluationError"
  | binding _ _ => "BindingError"

/-- The error as it is shown. -/
def message : Error → String
  | unavailable reason => "SCRIPT_INTERPRETER_UNAVAILABLE: " ++ reason
  | evaluation reason => "SCRIPT_EVAL_FAILED: " ++ reason
  | binding name reason => "SCRIPT_BINDING_FAILED: '" ++ name ++ "': " ++ reason

/-- What a failed section is replaced by. -/
def marker (e : Error) : String := "[Script-Error: " ++ e.kind ++ "]"

end Error

/-- How sessions with states `σ` answer the three calls.  A call may read members of host objects
and leaves a new state, whether it is refused or not. -/
structure Interpreter (ω σ : Type) where
  set : String → Value ω → σ → Logged ω (Except Error Unit × σ)
  eval : String → σ → Logged ω (Except Error (Value ω) × σ)
  unset : String → σ → Logged ω (Except Error Unit × σ)

/-- An interpreter in some state. -/
structure Session (ω σ : Type) where
  interpreter : Interpreter ω σ
  state : σ

/-- Makes sessions, or says why it cannot. -/
structure Factory (ω σ : Type) where
  create : Except Error (Session ω σ)

namespace Session

variable {ω σ : Type}

/-- Registers `v` under `name`. -/
def set (s : Session ω σ) (name : String) (v : Value ω) :
    Logged ω (Except Error Unit × Session ω σ) := do
  Logged.record (.call (.set name v))
  let (answer, state) ← s.interpreter.set name v s.state
  return (answer, { s with state })

/-- Evaluates a script. -/
def eval (s : Session ω σ) (source : String) :
    Logged ω (Except Error (Value ω) × Session ω σ) := do
  Logged.record (.call (.eval source))
  let (answer, state) ← s.interpreter.eval source s.state
  return (answer, { s with state })

/-- Removes what is registered under `name`. -/
def unset (s : Session ω σ) (name : String) : Logged ω (Except Error Unit × Session ω σ) := do
  Logged.record (.call (.unset name))
  let (answer, state) ← s.interpreter.unset name s.state
  return (answer, { s with state })

end Session

end TextTemplate.Script
