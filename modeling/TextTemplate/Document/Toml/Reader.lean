import TextTemplate.Document.Toml.Number
import TextTemplate.Document.Toml.Quoted
import TextTemplate.Document.Toml.Section
set_option autoImplicit false

/-!
# Reader: TOML documents

A document is a sequence of lines: headers of tables, keys with values, comments and blanks.  Arrays
may go over several lines, tables in braces may not.  Arrays and tables in braces may be nested up
to a limit, and a key has only so many parts.
-/

namespace TextTemplate.Document.Toml

/-- Containers are nested less deeply than this, and a key has fewer parts. -/
def depthLimit : Nat := 80

/-- Skips blanks within a line. -/
def spaces : Reader Unit := Reader.skipWhile isSpace

/-- Takes a comment, if there is one, up to the end of its line. -/
def comment : Reader Unit := do
  if ← Reader.accept '#' then Reader.skipWhile isPlain

/-- Takes the end of a line. -/
def lineEnd : Reader Unit := do
  unless ← lineBreak do
    match ← Reader.peek? with
    | none => return ()
    | some c => Reader.fail (.unexpected c)

/-- Takes blanks, a comment and the end of the line. -/
def trailing : Reader Unit := do
  spaces
  comment
  lineEnd

/-! ## Keys -/

/-- Can the character stand in a key without marks? -/
def isBare (c : Char) : Bool := c.isAlphanum || c == '_' || c == '-'

/-- Takes one part of a key. -/
def keyPart : Reader String := do
  match ← Reader.peek? with
  | some '"' => basic
  | some '\'' => literal
  | _ =>
    let cs ← Reader.takeWhile isBare
    if cs.isEmpty then Reader.unexpected else return String.ofList cs

/-- Takes the parts of a key, each with blanks around it. -/
def keyParts : Nat → Reader (List String)
  | 0 => Reader.fail .depth
  | fuel + 1 => do
    spaces
    let part ← keyPart
    spaces
    if ← Reader.accept '.' then return part :: (← keyParts fuel) else return [part]

/-- Takes a key and splits off its last part. -/
def key : Reader (List String × String) := do
  let parts ← keyParts (depthLimit - 1)
  match parts.getLast? with
  | some last => return (parts.dropLast, last)
  | none => Reader.unexpected

/-! ## Values -/

/-- Takes blanks, line breaks and comments. -/
def blankLines : Nat → Reader Unit
  | 0 => return ()
  | fuel + 1 => do
    spaces
    if ← lineBreak then blankLines fuel
    else if (← Reader.peek?) = some '#' then
      comment
      blankLines fuel

/-- Takes blanks, line breaks and comments, as many as there are. -/
def gap : Reader Unit := do
  let cs ← get
  blankLines (cs.length + 1)

/-- Takes the items of an array and its closing bracket. -/
def items (item : Reader Toml) : Nat → Reader (List Toml)
  | 0 => Reader.fail .end_
  | fuel + 1 => do
    gap
    if ← Reader.accept ']' then return []
    let v ← item
    gap
    if ← Reader.accept ',' then return v :: (← items item fuel)
    Reader.expect ']'
    return [v]

/-- Takes a key, an equals sign and a value. -/
def pair (item : Reader Toml) : Reader (List String × String × Toml) := do
  let (path, last) ← key
  Reader.expect '='
  spaces
  return (path, last, ← item)

/-- Takes the pairs of a table in braces and its closing brace. -/
def pairs (item : Reader Toml) : Nat → Reader (List (List String × String × Toml))
  | 0 => Reader.fail .end_
  | fuel + 1 => do
    let p ← pair item
    spaces
    if ← Reader.accept ',' then return p :: (← pairs item fuel)
    Reader.expect '}'
    return [p]

/-- Takes an array or a table in braces with the values that `item?` takes; without it none may
begin. -/
def container (item? : Option (Reader Toml)) : Reader Toml := do
  match item? with
  | none => Reader.fail .depth
  | some item =>
    let cs ← get
    if ← Reader.accept '[' then return .arr (← items item (cs.length + 1))
    Reader.expect '{'
    spaces
    if ← Reader.accept '}' then return .table []
    let ps ← pairs item (cs.length + 1)
    match Section.inBraces ps with
    | .ok v => return v
    | .error f => Reader.fail f

/-- Takes a date, a time or a number. -/
def datetimeOrNumber : Reader Toml := do
  match ← Datetime.read? with
  | some d => return .datetime d
  | none => number

/-- Takes a value; those in an array or a table in braces are those that `item?` takes. -/
def valueWith (item? : Option (Reader Toml)) : Reader Toml := do
  match ← Reader.peek? with
  | some '"' => return .str (← text '"')
  | some '\'' => return .str (← text '\'')
  | some '[' | some '{' => container item?
  | some 't' =>
    Reader.expectAll "true".toList
    return .bool true
  | some 'f' =>
    Reader.expectAll "false".toList
    return .bool false
  | some _ => datetimeOrNumber
  | none => Reader.unexpected

/-- Takes a value in which containers are nested no deeper than `depth`. -/
def value : (depth : Nat) → Reader Toml
  | 0 => valueWith none
  | depth + 1 => valueWith (some (value depth))

/-! ## Lines -/

/-- Takes a header. -/
def header (o : Outline) : Reader Outline := do
  Reader.expect '['
  let isArray ← Reader.accept '['
  let (path, last) ← key
  Reader.expect ']'
  if isArray then Reader.expect ']'
  trailing
  match if isArray then o.beginArrayTable path last else o.beginTable path last with
  | .ok o => return o
  | .error f => Reader.fail f

/-- Takes a key with its value. -/
def assignment (o : Outline) : Reader Outline := do
  let (path, last, v) ← pair (value (depthLimit - 1))
  trailing
  match o.addValue path last v with
  | .ok o => return o
  | .error f => Reader.fail f

/-- Takes one line. -/
def line (o : Outline) : Reader Outline := do
  spaces
  match ← Reader.peek? with
  | some '[' => header o
  | some '#' | some '\n' | some '\r' | none =>
    trailing
    return o
  | some _ => assignment o

/-- Takes lines to the end of the document. -/
def document (o : Outline) : Nat → Reader Outline
  | 0 => return o
  | fuel + 1 => do
    if (← get).isEmpty then return o
    let o ← line o
    document o fuel

/-- Reads the entries of a document, in its order.  A byte order mark before it is no part of it. -/
def read (source : String) : Except Fault (List (String × Toml)) := do
  let reader : Reader Outline := do
    let _ ← Reader.accept '\ufeff'
    let cs ← get
    document .empty (cs.length + 1)
  let o ← Reader.run reader source
  o.finish

end TextTemplate.Document.Toml
