import TextTemplate.Text
import TextTemplate.Script.Session
import TextTemplate.Value.Member
set_option autoImplicit false

/-!
# Words: a script language of one command

A script is a few words with single spaces between them: a command and what it is about.  It can
look at the names registered in its session, hand back text, or fail in a way of its choice.
-/

namespace TextTemplate.Fixture

open Script (Error)

/-- The names registered in a session, in order. -/
abbrev Globals (ω : Type) := Entries String (Value ω)

/-- Evaluates a script over registered names. -/
abbrev Evaluator (ω : Type) := String → Globals ω → Logged ω (Except Error (Value ω))

variable {ω : Type}

/-- The words of a script; two spaces in a row have an empty word between them. -/
def words (source : String) : List String := (Text.split ' ' source.toList).map String.ofList

/-- The error of a named kind. -/
def namedError : String → Error
  | "unavailable" => .unavailable "thrown by the script"
  | "binding" => .binding "throw" "thrown by the script"
  | _ => .evaluation "thrown by the script"

/-- The length of a registered value, as its method tells it. -/
def lengthOf (host : Host ω) (globals : Globals ω) (name : String) :
    Logged ω (Except Error (Value ω)) := do
  match Entries.find? name globals with
  | none => return .error (.evaluation (name ++ " is not set"))
  | some v =>
    match ← v.call host "length" with
    | some (.ok result) => return .ok result
    | some (.error e) => return .error (.evaluation e.message)
    | none => return .error (.evaluation (name ++ " has no length"))

/-- Evaluates one command. -/
def evalWords (host : Host ω) : Evaluator ω := fun source globals =>
  match words source with
  | ["len", name] => lengthOf host globals name
  | ["get", name] =>
    match Entries.find? name globals with
    | some v => pure (.ok v)
    | none => pure (.error (.evaluation (name ++ " is not set")))
  | ["nil"] => pure (.ok .null)
  | ["globals"] => pure (.ok (.list ((Entries.keys globals).map .str)))
  | "echo" :: _ => pure (.ok (.str (String.ofList (source.toList.drop 4))))
  | ["throw", kind] => pure (.error (namedError kind))
  | _ => pure (.error (.evaluation "no such command"))

end TextTemplate.Fixture
