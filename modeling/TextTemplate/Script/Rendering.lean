import TextTemplate.Script.Block
import TextTemplate.Script.Bracket
import TextTemplate.Value.Display
set_option autoImplicit false

/-!
# Rendering: what the script sections of a text are replaced by

All sections of a text share one session, made when the first of them is reached.  A section is
replaced by the text of its value, or by the marker of what went wrong; if no session could be made,
every section is replaced by the marker of that.
-/

namespace TextTemplate.Script

variable {ω σ : Type}

/-- The text of a script's result. -/
def resultText (host : Host ω) (nullString : String) : Except Error (Value ω) → String
  | .ok v => v.textOr host nullString
  | .error e => e.marker

section

variable (host : Host ω) (nullString : String)

@[simp] theorem resultText_error (e : Error) : resultText host nullString (.error e) = e.marker :=
  rfl

theorem resultText_of_absent {v : Value ω} (h : v.isNull = true) :
    resultText host nullString (.ok v) = nullString :=
  Value.textOr_of_absent h nullString

theorem resultText_of_present {v : Value ω} (h : v.isNull = false) :
    resultText host nullString (.ok v) = v.display host :=
  Value.textOr_of_present h nullString

end

/-- Evaluates one script in a session. -/
def Session.renderScript (host : Host ω) (nullString : String) (s : Session ω σ)
    (bindings : Bindings ω) (source : String) : Logged ω (String × Session ω σ) := do
  let (result, s) ← s.runScript bindings source
  return (resultText host nullString result, s)

/-- Makes a session; without a factory there is none. -/
def createSession (factory : Option (Factory ω σ)) : Logged ω (Except Error (Session ω σ)) :=
  match factory with
  | none => pure (.error (.unavailable "no interpreter configured"))
  | some factory => do
    Logged.record (.call .create)
    return factory.create

/-- The session so far, or a new one if there is none yet. -/
def currentSession (factory : Option (Factory ω σ)) :
    Option (Except Error (Session ω σ)) → Logged ω (Except Error (Session ω σ))
  | some session => pure session
  | none => createSession factory

/-- The replacements for `blocks`, evaluated one after the other. -/
def renderBlocks (host : Host ω) (nullString : String) (factory : Option (Factory ω σ))
    (bindings : Bindings ω) :
    (session : Option (Except Error (Session ω σ))) → (blocks : List Block) →
      Logged ω (List Text.Edit)
  | _, [] => pure []
  | session, block :: blocks => do
    let session ← currentSession factory session
    let (text, session) ← match session with
      | .error e => pure (e.marker, Except.error e)
      | .ok s => do
        let (text, s) ← s.renderScript host nullString bindings block.source
        pure (text, Except.ok s)
    let edits ← renderBlocks host nullString factory bindings (some session) blocks
    return ⟨block.start, block.stop, text.toList⟩ :: edits

end TextTemplate.Script
