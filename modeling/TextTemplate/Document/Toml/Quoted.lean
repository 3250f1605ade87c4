import TextTemplate.Document.Fault
set_option autoImplicit false

/-!
# Quoted: the texts of TOML documents

A text has four written forms: basic ones, in which a backslash begins an escape, and literal ones,
in which it does not, each on one line or on several.  A text on several lines loses a line break
right after its opening marks, and a line break in it is always a single character.  Basic texts can
also be written.
-/

namespace TextTemplate.Document.Toml

/-- Puts a character in front of what the rest of a text reads as. -/
def prepend (c : Char) (r : Except Fault (List Char × List Char)) :
    Except Fault (List Char × List Char) :=
  match r with
  | .ok (s, rest) => .ok (c :: s, rest)
  | .error f => .error f

/-- Can the character stand in a document as it is?  Controls cannot, the tab excepted. -/
def isPlain (c : Char) : Bool := c == '\t' || (0x20 ≤ c.toNat && c.toNat != 0x7f)

/-- The characters that an escape of one letter can stand for. -/
def simpleEscape? : Char → Option Char
  | 'b' => some '\x08'
  | 't' => some '\t'
  | 'n' => some '\n'
  | 'f' => some '\x0c'
  | 'r' => some '\r'
  | '"' => some '"'
  | '\\' => some '\\'
  | _ => none

/-! ## Texts on one line -/

/-- Where the reader of a basic text is: between characters, after a backslash, or before the last
`left + 1` digits of a code. -/
inductive Place where
  | plain
  | escape
  | code (left value : Nat)
  deriving DecidableEq, Repr, Inhabited

/-- Reads a basic text up to its closing quotation mark. -/
def basicBody : Place → List Char → Except Fault (List Char × List Char)
  | _, [] => .error .end_
  | .plain, c :: cs =>
    if c = '"' then .ok ([], cs)
    else if c = '\\' then basicBody .escape cs
    else if isPlain c then prepend c (basicBody .plain cs)
    else .error (.unexpected c)
  | .escape, c :: cs =>
    if c = 'u' then basicBody (.code 3 0) cs
    else if c = 'U' then basicBody (.code 7 0) cs
    else match simpleEscape? c with
      | some d => prepend d (basicBody .plain cs)
      | none => .error .escape
  | .code left value, c :: cs =>
    match hexDigit? c with
    | none => .error .escape
    | some d =>
      let value := 16 * value + d
      match left with
      | left + 1 => basicBody (.code left value) cs
      | 0 =>
        match character? value with
        | some d => prepend d (basicBody .plain cs)
        | none => .error .scalar

/-- Reads a literal text up to its closing apostrophe. -/
def literalBody : List Char → Except Fault (List Char × List Char)
  | [] => .error .end_
  | c :: cs =>
    if c = '\'' then .ok ([], cs)
    else if isPlain c then prepend c (literalBody cs)
    else .error (.unexpected c)

/-- Takes a basic text on one line with its quotation marks. -/
def basic : Reader String := do
  Reader.expect '"'
  let s ← basicBody .plain
  return String.ofList s

/-- Takes a literal text on one line with its apostrophes. -/
def literal : Reader String := do
  Reader.expect '\''
  let s ← literalBody
  return String.ofList s

/-! ## Texts on several lines -/

/-- Takes a line break, if there is one. -/
def lineBreak : Reader Bool
  | '\n' :: cs => .ok (true, cs)
  | '\r' :: '\n' :: cs => .ok (true, cs)
  | cs => .ok (false, cs)

/-- Is it a blank within a line? -/
def isSpace (c : Char) : Bool := c == ' ' || c == '\t'

/-- Drops blanks and line breaks. -/
def dropBlankLines : List Char → List Char
  | [] => []
  | '\r' :: '\n' :: cs => dropBlankLines cs
  | c :: cs => if isSpace c ∨ c = '\n' then dropBlankLines cs else c :: cs

/-- What follows a backslash at the end of a line: the next text in a later line. -/
def continuation? (cs : List Char) : Option (List Char) :=
  match cs.dropWhile isSpace with
  | '\n' :: rest => some (dropBlankLines rest)
  | '\r' :: '\n' :: rest => some (dropBlankLines rest)
  | _ => none

/-- The number that exactly `count` hexadecimal digits denote. -/
def hexCode : (count : Nat) → (value : Nat) → Reader Nat
  | 0, value => return value
  | count + 1, value => do
    match hexDigit? (← Reader.next) with
    | some d => hexCode count (16 * value + d)
    | none => Reader.fail .escape

/-- Takes an escape after its backslash. -/
def escapedChar : Reader Char := do
  let c ← Reader.next
  let fromCode (count : Nat) : Reader Char := do
    match character? (← hexCode count 0) with
    | some d => return d
    | none => Reader.fail .scalar
  if c = 'u' then fromCode 4
  else if c = 'U' then fromCode 8
  else match simpleEscape? c with
    | some d => return d
    | none => Reader.fail .escape

/-- How many marks `q` stand at the beginning. -/
def marks (q : Char) (cs : List Char) : Nat := (cs.takeWhile (· == q)).length

/-- Takes a text on several lines up to its three closing marks.  Up to two marks in a row belong to
the text, also right before the closing ones. -/
def linesBody (q : Char) : Nat → Reader (List Char)
  | 0 => Reader.fail .end_
  | fuel + 1 => do
    let cs ← get
    let n := marks q cs
    if 3 ≤ n then
      set (cs.drop (min n 5))
      return List.replicate (min n 5 - 3) q
    if 1 ≤ n then
      set (cs.drop n)
      return List.replicate n q ++ (← linesBody q fuel)
    if ← lineBreak then return '\n' :: (← linesBody q fuel)
    let c ← Reader.next
    if c = '\\' ∧ q = '"' then
      match continuation? (← get) with
      | some rest =>
        set rest
        linesBody q fuel
      | none =>
        let d ← escapedChar
        return d :: (← linesBody q fuel)
    else if isPlain c then return c :: (← linesBody q fuel)
    else Reader.fail (.unexpected c)

/-- Takes a text on several lines after its three opening marks. -/
def lines (q : Char) : Reader String := do
  let _ ← lineBreak
  let cs ← get
  let s ← linesBody q (cs.length + 1)
  return String.ofList s

/-- Takes a text in any of its forms, whose marks are `q`. -/
def text (q : Char) : Reader String := do
  let cs ← get
  if 3 ≤ marks q cs then
    set (cs.drop 3)
    lines q
  else if q = '"' then basic
  else literal

/-! ## Writing -/

/-- The upper-case hexadecimal digits of a number, at least four. -/
def codeDigits (n : Nat) : List Char :=
  let ds := (Nat.toDigits 16 n).map Char.toUpper
  List.replicate (4 - ds.length) '0' ++ ds

/-- How a character of a basic text is written. -/
def basicChar (c : Char) : List Char :=
  if c = '\x08' then ['\\', 'b']
  else if c = '\t' then ['\\', 't']
  else if c = '\n' then ['\\', 'n']
  else if c = '\x0c' then ['\\', 'f']
  else if c = '\r' then ['\\', 'r']
  else if c = '"' then ['\\', '"']
  else if c = '\\' then ['\\', '\\']
  else if isPlain c then [c]
  else ['\\', 'u'] ++ codeDigits c.toNat

/-- The basic form of a text, with its quotation marks. -/
def basicText (s : String) : String :=
  String.ofList ('"' :: s.toList.flatMap basicChar ++ ['"'])

end TextTemplate.Document.Toml
