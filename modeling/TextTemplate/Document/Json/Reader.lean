import TextTemplate.Document.Json.Number
set_option autoImplicit false

/-!
# Reader: JSON documents

The reader follows the grammar.  Containers may be nested up to a limit, a key that comes again in
an object replaces the earlier one, and an escape must denote a character, if need be together with
the one after it.
-/

namespace TextTemplate.Document.Json

/-- Blanks between the parts of a document. -/
def isBlank (c : Char) : Bool := c == ' ' || c == '\n' || c == '\r' || c == '\t'

/-- Skips blanks. -/
def blanks : Reader Unit := Reader.skipWhile isBlank

/-! ## Strings -/

/-- The characters that an escape of one letter can stand for. -/
def simpleEscape? : Char → Option Char
  | '"' => some '"'
  | '\\' => some '\\'
  | '/' => some '/'
  | 'b' => some '\x08'
  | 'f' => some '\x0c'
  | 'n' => some '\n'
  | 'r' => some '\r'
  | 't' => some '\t'
  | _ => none

/-- Where the reader of a string is: between characters, after a backslash, or inside the four
digits of a code.  The last two carry the first half of a pair that waits for its second half. -/
inductive Place where
  | plain
  | escape
  | code (left value : Nat)
  | pairBackslash (high : Nat)
  | pairLetter (high : Nat)
  | pairCode (high left value : Nat)
  deriving DecidableEq, Repr, Inhabited

/-- Puts a character in front of what the rest of a string reads as. -/
def prepend (c : Char) (r : Except Fault (List Char × List Char)) :
    Except Fault (List Char × List Char) :=
  match r with
  | .ok (s, rest) => .ok (c :: s, rest)
  | .error f => .error f

/-- Reads a string up to its closing quotation mark. -/
def stringBody : Place → List Char → Except Fault (List Char × List Char)
  | _, [] => .error .end_
  | .plain, c :: cs =>
    if c = '"' then .ok ([], cs)
    else if c = '\\' then stringBody .escape cs
    else if c.toNat < 0x20 then .error (.unexpected c)
    else prepend c (stringBody .plain cs)
  | .escape, c :: cs =>
    if c = 'u' then stringBody (.code 3 0) cs
    else match simpleEscape? c with
      | some d => prepend d (stringBody .plain cs)
      | none => .error .escape
  | .code left value, c :: cs =>
    match hexDigit? c with
    | none => .error .escape
    | some d =>
      let value := 16 * value + d
      match left with
      | left + 1 => stringBody (.code left value) cs
      | 0 =>
        if 0xD800 ≤ value ∧ value < 0xDC00 then stringBody (.pairBackslash value) cs
        else match character? value with
          | some d => prepend d (stringBody .plain cs)
          | none => .error .scalar
  | .pairBackslash high, c :: cs =>
    if c = '\\' then stringBody (.pairLetter high) cs else .error .scalar
  | .pairLetter high, c :: cs =>
    if c = 'u' then stringBody (.pairCode high 3 0) cs else .error .scalar
  | .pairCode high left value, c :: cs =>
    match hexDigit? c with
    | none => .error .escape
    | some d =>
      let value := 16 * value + d
      match left with
      | left + 1 => stringBody (.pairCode high left value) cs
      | 0 =>
        if 0xDC00 ≤ value ∧ value < 0xE000 then
          prepend (Char.ofNat (0x10000 + 0x400 * (high - 0xD800) + (value - 0xDC00)))
            (stringBody .plain cs)
        else .error .scalar

/-- Takes a string with its quotation marks. -/
def string : Reader String := do
  Reader.expect '"'
  let s ← stringBody .plain
  return String.ofList s

/-! ## Containers -/

/-- Takes the items of an array after its first one, and the closing bracket. -/
def moreItems (item : Reader Json) : Nat → Reader (List Json)
  | 0 => Reader.fail .end_
  | fuel + 1 => do
    blanks
    if ← Reader.accept ']' then return []
    Reader.expect ','
    blanks
    let j ← item
    return j :: (← moreItems item fuel)

/-- Takes an array after its opening bracket. -/
def array (item : Reader Json) : Reader (List Json) := do
  blanks
  if ← Reader.accept ']' then return []
  let j ← item
  let rest ← get
  return j :: (← moreItems item (rest.length + 1))

/-- Takes a key, a colon and a value. -/
def member (item : Reader Json) : Reader (String × Json) := do
  let key ← string
  blanks
  Reader.expect ':'
  blanks
  return (key, ← item)

/-- Takes the members of an object after its first one, and the closing brace. -/
def moreMembers (item : Reader Json) : Nat → Reader (List (String × Json))
  | 0 => Reader.fail .end_
  | fuel + 1 => do
    blanks
    if ← Reader.accept '}' then return []
    Reader.expect ','
    blanks
    let m ← member item
    return m :: (← moreMembers item fuel)

/-- Takes an object after its opening brace. -/
def object (item : Reader Json) : Reader (List (String × Json)) := do
  blanks
  if ← Reader.accept '}' then return []
  let m ← member item
  let rest ← get
  return m :: (← moreMembers item (rest.length + 1))

/-- Takes an array or object with the items that `item?` takes; without it none may begin. -/
def container (item? : Option (Reader Json)) : Reader Json := do
  match item? with
  | none => Reader.fail .depth
  | some item =>
    if ← Reader.accept '[' then return .arr (← array item)
    Reader.expect '{'
    return .obj (Entries.ofList (← object item))

/-- Takes a value; the items of an array or object are those that `item?` takes. -/
def valueWith (item? : Option (Reader Json)) : Reader Json := do
  match ← Reader.peek? with
  | some '[' | some '{' => container item?
  | some '"' => return .str (← string)
  | some 'n' =>
    Reader.expectAll "null".toList
    return .null
  | some 't' =>
    Reader.expectAll "true".toList
    return .bool true
  | some 'f' =>
    Reader.expectAll "false".toList
    return .bool false
  | _ => number

/-- Takes a value in which containers are nested no deeper than `depth`. -/
def value : (depth : Nat) → Reader Json
  | 0 => valueWith none
  | depth + 1 => valueWith (some (value depth))

/-- How deeply containers may be nested. -/
def maxDepth : Nat := 127

/-- Reads a document. -/
def read (source : String) : Except Fault Json :=
  Reader.run (do blanks; let j ← value maxDepth; blanks; return j) source

end TextTemplate.Document.Json
