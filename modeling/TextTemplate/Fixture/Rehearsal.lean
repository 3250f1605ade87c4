import TextTemplate.Fixture.Words
set_option autoImplicit false

/-!
# Rehearsal: sessions that keep their names in a map

A scripted session is nothing but its registered names and one evaluator for every script, which
cannot change them.  A rehearsed session is a scripted one that can be told to refuse names, that
counts its evaluations, and in which a script may assign a name.
-/

namespace TextTemplate.Fixture

open Script (Error Interpreter Session Factory)

variable {ω : Type}

/-! ## Scripted sessions -/

/-- Registered names and an evaluator for every script. -/
def scripted (evaluator : Evaluator ω) : Interpreter ω (Globals ω) where
  set name v globals := pure (.ok (), Entries.insert name v globals)
  eval source globals := do
    let answer ← evaluator source globals
    return (answer, globals)
  unset name globals := pure (.ok (), Entries.erase name globals)

/-- A scripted session in which nothing is registered yet. -/
def scriptedSession (evaluator : Evaluator ω) : Session ω (Globals ω) := ⟨scripted evaluator, []⟩

/-- Makes a new scripted session every time. -/
def scriptedFactory (evaluator : Evaluator ω) : Factory ω (Globals ω) :=
  ⟨.ok (scriptedSession evaluator)⟩

/-! ## Rehearsed sessions -/

/-- The names that a rehearsed session refuses to register and to remove. -/
structure Refusals where
  set : List String := []
  unset : List String := []
  deriving DecidableEq, Repr, Inhabited

/-- The registered names and how many scripts were evaluated. -/
structure Rehearsal (ω : Type) where
  globals : Globals ω
  evaluations : Nat
  deriving Inhabited

namespace Rehearsal

/-- A refused name is an error of its binding; otherwise the call goes to the scripted session. -/
def guarded (refused : List String) (name : String)
    (call : Globals ω → Logged ω (Except Error Unit × Globals ω)) (r : Rehearsal ω) :
    Logged ω (Except Error Unit × Rehearsal ω) :=
  if refused.contains name then pure (.error (.binding name "refused"), r)
  else do
    let (answer, globals) ← call r.globals
    return (answer, { r with globals })

/-- Evaluates a script: the count of evaluations, an assignment, or what the evaluator makes of
it. -/
def eval (inner : Interpreter ω (Globals ω)) (source : String) (r : Rehearsal ω) :
    Logged ω (Except Error (Value ω) × Rehearsal ω) :=
  let r := { r with evaluations := r.evaluations + 1 }
  match words source with
  | ["count"] => pure (.ok (.int (Int64.ofNat r.evaluations)), r)
  | ["let", name, word] =>
    pure (.ok (.str word), { r with globals := Entries.insert name (.str word) r.globals })
  | _ => do
    let (answer, globals) ← inner.eval source r.globals
    return (answer, { r with globals })

end Rehearsal

/-- A scripted session with refusals, a count and assignments. -/
def rehearsed (evaluator : Evaluator ω) (refusals : Refusals) : Interpreter ω (Rehearsal ω) :=
  let inner := scripted evaluator
  { set := fun name v => Rehearsal.guarded refusals.set name (inner.set name v)
    eval := Rehearsal.eval inner
    unset := fun name => Rehearsal.guarded refusals.unset name (inner.unset name) }

/-- Makes a new rehearsed session every time. -/
def rehearsedFactory (evaluator : Evaluator ω) (refusals : Refusals) : Factory ω (Rehearsal ω) :=
  ⟨.ok ⟨rehearsed evaluator refusals, ⟨[], 0⟩⟩⟩

/-! ## Factories without sessions -/

/-- Never makes a session. -/
def failingFactory {σ : Type} (e : Error) : Factory ω σ := ⟨.error e⟩

/-- Never makes a session, as if no script runtime were there. -/
def unavailableFactory {σ : Type} : Factory ω σ :=
  failingFactory (.unavailable "scripting runtime not installed")

end TextTemplate.Fixture
