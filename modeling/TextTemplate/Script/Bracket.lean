import TextTemplate.Bindings
import TextTemplate.Script.Session
set_option autoImplicit false

/-!
# Bracket: a script between registering and removing the bindings

A script sees the bindings as names of its session.  They are registered in name order before it and
removed in name order after it, also when it or a registration failed.  The first refused call ends
its own series: no binding after a refused one is registered, and the script is then not evaluated;
no name after a refused one is removed.
-/

namespace TextTemplate.Script

variable {ω σ : Type}

namespace Session

/-- Registers entries until one is refused. -/
def setAll (s : Session ω σ) :
    List (String × Value ω) → Logged ω (Except Error Unit × Session ω σ)
  | [] => pure (.ok (), s)
  | (name, v) :: entries => do
    let (answer, s) ← s.set name v
    match answer with
    | .ok () => s.setAll entries
    | .error e => return (.error e, s)

/-- Removes names until one is refused. -/
def unsetAll (s : Session ω σ) : List String → Logged ω (Except Error Unit × Session ω σ)
  | [] => pure (.ok (), s)
  | name :: names => do
    let (answer, s) ← s.unset name
    match answer with
    | .ok () => s.unsetAll names
    | .error e => return (.error e, s)

/-- Evaluates a script if the bindings could be registered. -/
def evalAfter (s : Session ω σ) (registered : Except Error Unit) (source : String) :
    Logged ω (Except Error (Value ω) × Session ω σ) :=
  match registered with
  | .ok () => s.eval source
  | .error e => pure (.error e, s)

/-- Evaluates a script with the bindings registered around it. -/
def runScript (s : Session ω σ) (bindings : Bindings ω) (source : String) :
    Logged ω (Except Error (Value ω) × Session ω σ) := do
  let (registered, s) ← s.setAll bindings.entries
  let (evaluated, s) ← s.evalAfter registered source
  let (released, s) ← s.unsetAll bindings.names
  match evaluated, released with
  | .error e, _ => return (.error e, s)
  | .ok _, .error e => return (.error e, s)
  | .ok v, .ok () => return (.ok v, s)

end Session

end TextTemplate.Script
