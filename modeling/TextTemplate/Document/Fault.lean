import TextTemplate.Text.Digits
set_option autoImplicit false

/-!
# Fault: why a document cannot be read

The readers of this library take a prefix of a list of characters and return what it denotes and the
rest.  A text that no reader accepts ends in one of the faults listed here.
-/

namespace TextTemplate.Document

/-- Why a document cannot be read. -/
inductive Fault where
  /-- the document ends in the middle of something -/
  | end_
  /-- a character that cannot stand where it is -/
  | unexpected (c : Char)
  /-- a backslash that is followed by no escape -/
  | escape
  /-- an escape that denotes no character -/
  | scalar
  /-- a number that is written wrongly or out of range -/
  | number
  /-- a date or time that does not exist -/
  | datetime
  /-- containers nested too deeply, or a key with too many parts -/
  | depth
  /-- a key that is defined twice, or as two different things -/
  | duplicate (key : String)
  /-- a setting whose value has the wrong type -/
  | type (key : String)
  deriving DecidableEq, Repr, Inhabited

namespace Fault

/-- The fault as it is shown. -/
def message : Fault → String
  | end_ => "unexpected end of document"
  | unexpected c => "unexpected character '" ++ c.toString ++ "'"
  | escape => "invalid escape sequence"
  | scalar => "escape denotes no character"
  | number => "invalid number"
  | datetime => "invalid date or time"
  | depth => "document nested too deeply"
  | duplicate key => "duplicate key '" ++ key ++ "'"
  | type key => "wrong type for key '" ++ key ++ "'"

end Fault

/-- A reader: takes a prefix of the input and returns what it denotes and the rest. -/
abbrev Reader := StateT (List Char) (Except Fault)

namespace Reader

/-- Fails. -/
def fail {α : Type} (f : Fault) : Reader α := fun _ => .error f

/-- The next character, if there is one; it is not taken. -/
def peek? : Reader (Option Char) := fun cs => .ok (cs.head?, cs)

/-- Fails at the next character. -/
def unexpected {α : Type} : Reader α
  | [] => .error .end_
  | c :: _ => .error (.unexpected c)

/-- Takes the next character. -/
def next : Reader Char
  | [] => .error .end_
  | c :: cs => .ok (c, cs)

/-- Takes `c`. -/
def expect (c : Char) : Reader Unit
  | [] => .error .end_
  | d :: cs => if c = d then .ok ((), cs) else .error (.unexpected d)

/-- Takes all of `cs`. -/
def expectAll : List Char → Reader Unit
  | [] => pure ()
  | c :: cs => do
    expect c
    expectAll cs

/-- Takes `c` if it comes next. -/
def accept (c : Char) : Reader Bool
  | [] => .ok (false, [])
  | d :: cs => if c = d then .ok (true, cs) else .ok (false, d :: cs)

/-- Takes the characters up to the first one without the property. -/
def takeWhile (p : Char → Bool) : Reader (List Char) := fun cs =>
  .ok (cs.takeWhile p, cs.dropWhile p)

/-- Takes the characters up to the first one without the property and forgets them. -/
def skipWhile (p : Char → Bool) : Reader Unit := fun cs => .ok ((), cs.dropWhile p)

/-- Reads the whole of a text. -/
def run {α : Type} (r : Reader α) (s : String) : Except Fault α :=
  match r s.toList with
  | .error f => .error f
  | .ok (a, []) => .ok a
  | .ok (_, c :: _) => .error (.unexpected c)

end Reader

end TextTemplate.Document
