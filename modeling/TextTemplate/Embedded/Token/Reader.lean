import TextTemplate.Embedded.Token
set_option autoImplicit false

/-!
# Reader: the tokens of a script

The first token of a script is the longest one that its first characters form.  Blanks and comments
stand between tokens: a comment begins with two dashes and ends with its line, or with its long
bracket if it begins with one.  Every step takes at least one character, so as many steps as there
are characters are enough.
-/

namespace TextTemplate.Embedded

namespace Token

/-! ## Characters -/

def isLineEnd (c : Char) : Bool := c = '\n' || c = '\r'

/-- May the character begin a name?  Only ASCII letters and the underscore may. -/
def isNameStart (c : Char) : Bool := c.isAlpha || c = '_'

/-- May the character stand in a name? -/
def isNamePart (c : Char) : Bool := c.isAlphanum || c = '_'

/-- What follows a line end, if there is one; two different line end characters are one line end. -/
def afterLineEnd : List Char → List Char
  | '\r' :: '\n' :: cs => cs
  | '\n' :: '\r' :: cs => cs
  | '\r' :: cs => cs
  | '\n' :: cs => cs
  | cs => cs

/-! ## Texts in quotation marks -/

/-- The byte of the last six bits of a code. -/
def partByte (code : Nat) : UInt8 := (0x80 + code % 64).toUInt8

/-- The bytes of a code of up to 31 bits in the form of UTF-8, which goes beyond characters: a first
byte that tells how many follow, and six bits in each that follows. -/
def codeBytes (code : Nat) : Bytes :=
  let lead (mark n : Nat) : UInt8 := (mark + code / n).toUInt8
  let last := partByte code
  let second := partByte (code / 0x40)
  let third := partByte (code / 0x1000)
  let fourth := partByte (code / 0x40000)
  let fifth := partByte (code / 0x1000000)
  if code < 0x80 then [code.toUInt8]
  else if code < 0x800 then [lead 0xC0 0x40, last]
  else if code < 0x10000 then [lead 0xE0 0x1000, second, last]
  else if code < 0x200000 then [lead 0xF0 0x40000, third, second, last]
  else if code < 0x4000000 then [lead 0xF8 0x1000000, fourth, third, second, last]
  else [lead 0xFC 0x40000000, fifth, fourth, third, second, last]

/-- The byte of an escape of one letter. -/
def letterEscape? : Char → Option UInt8
  | 'a' => some 7
  | 'b' => some 8
  | 't' => some 9
  | 'n' => some 10
  | 'v' => some 11
  | 'f' => some 12
  | 'r' => some 13
  | '\\' => some 92
  | '"' => some 34
  | '\'' => some 39
  | _ => none

/-- An escape of a code in braces, after the opening one. -/
def codeEscape (cs : List Char) : Except ReadFault (Bytes × List Char) :=
  let digits := cs.takeWhile isHexDigit
  match cs.dropWhile isHexDigit with
  | '}' :: rest =>
    if digits.isEmpty || 0x80000000 ≤ digitsValue 16 digits then .error .escape
    else .ok (codeBytes (digitsValue 16 digits), rest)
  | _ => .error .escape

/-- An escape of a byte in up to three decimal digits. -/
def decimalEscape (cs : List Char) : Except ReadFault (Bytes × List Char) :=
  let digits := (cs.take 3).takeWhile Char.isDigit
  if digits.isEmpty || 255 < decimalValue digits then .error .escape
  else .ok ([(decimalValue digits).toUInt8], cs.drop digits.length)

/-- An escape, after the backslash. -/
def escape : List Char → Except ReadFault (Bytes × List Char)
  | [] => .error .unfinished
  | 'x' :: cs =>
    match cs with
    | c :: d :: rest =>
      match hexDigit? c, hexDigit? d with
      | some c, some d => .ok ([(16 * c + d).toUInt8], rest)
      | _, _ => .error .escape
    | _ => .error .escape
  | 'u' :: '{' :: cs => codeEscape cs
  | 'z' :: cs => .ok ([], cs.dropWhile Number.isBlank)
  | c :: cs =>
    if isLineEnd c then .ok ([10], afterLineEnd (c :: cs))
    else match letterEscape? c with
      | some b => .ok ([b], cs)
      | none => decimalEscape (c :: cs)

/-- A text up to its closing quotation mark, of at most `fuel` characters and escapes. -/
def quoted (mark : Char) : (fuel : Nat) → List Char → Except ReadFault (Bytes × List Char)
  | 0, _ | _, [] => .error .unfinished
  | fuel + 1, c :: cs =>
    if c = mark then .ok ([], cs)
    else if isLineEnd c then .error .lineEnd
    else do
      let (bytes, rest) ← if c = '\\' then escape cs else .ok (String.utf8EncodeChar c, cs)
      let (more, rest) ← quoted mark fuel rest
      return (bytes ++ more, rest)

/-! ## Texts in long brackets -/

/-- What follows a long bracket, and how many equality signs it has. -/
def longBracket? : List Char → Option (Nat × List Char)
  | '[' :: cs =>
    match cs.dropWhile (· = '=') with
    | '[' :: rest => some ((cs.takeWhile (· = '=')).length, rest)
    | _ => none
  | _ => none

/-- The closing bracket that belongs to one with `level` equality signs. -/
def closingBracket (level : Nat) : List Char := ']' :: List.replicate level '=' ++ [']']

/-- A text up to its closing bracket; every line end in it is a single line feed. -/
def long (closing : List Char) : List Char → Except ReadFault (Bytes × List Char)
  | [] => .error .unfinished
  | '\r' :: '\n' :: cs | '\n' :: '\r' :: cs => do
    let (more, rest) ← long closing cs
    return (10 :: more, rest)
  | c :: cs =>
    if closing.isPrefixOf (c :: cs) then .ok ([], (c :: cs).drop closing.length)
    else do
      let (more, rest) ← long closing cs
      return ((if isLineEnd c then [10] else String.utf8EncodeChar c) ++ more, rest)

/-! ## Tokens -/

/-- The longest run of characters that a number may consist of.  Only behind an exponent mark may a
sign stand. -/
def numeralRun (isMark : Char → Bool) : (afterMark : Bool) → List Char → List Char × List Char
  | _, [] => ([], [])
  | afterMark, c :: cs =>
    if isMark c || isHexDigit c || c = '.' || (afterMark && (c = '+' || c = '-')) then
      let (run, rest) := numeralRun isMark (isMark c) cs
      (c :: run, rest)
    else ([], c :: cs)

/-- A number.  A letter directly behind it belongs to it and makes it wrong. -/
def numeral (cs : List Char) : Except ReadFault (Token × List Char) :=
  let (run, rest) := match cs with
    | '0' :: 'x' :: _ | '0' :: 'X' :: _ =>
      let (run, rest) := numeralRun (fun c => c = 'p' || c = 'P') false (cs.drop 2)
      (cs.take 2 ++ run, rest)
    | cs => numeralRun (fun c => c = 'e' || c = 'E') false cs
  match rest.head?.any isNameStart, Number.ofNumeral? false run with
  | false, some n => .ok (.number n, rest)
  | _, _ => .error .number

/-- A name or a reserved word. -/
def word (cs : List Char) : Except ReadFault (Token × List Char) :=
  let text := String.ofList (cs.takeWhile isNamePart)
  let rest := cs.dropWhile isNamePart
  .ok (if reservedWords.contains text then .reserved text else .name text, rest)

/-- A symbol. -/
def symbol? (cs : List Char) : Option (Token × List Char) :=
  (symbols.find? (fun s => s.toList.isPrefixOf cs)).map
    fun s => (.symbol s, cs.drop s.length)

/-- What follows a comment, after its two dashes. -/
def afterComment (cs : List Char) : Except ReadFault (List Char) :=
  match longBracket? cs with
  | some (level, rest) => (long (closingBracket level) rest).map (·.2)
  | none => .ok (cs.dropWhile (!isLineEnd ·))

/-- The first token, or nothing if a blank or a comment comes first.  A text in quotation marks is
at most `limit` long. -/
def first (limit : Nat) (c : Char) (cs : List Char) :
    Except ReadFault (Option Token × List Char) := do
  if Number.isBlank c then return (none, cs)
  else if isNameStart c then
    let (t, rest) ← word (c :: cs)
    return (some t, rest)
  else if c.isDigit || (c = '.' && (cs.head?.any Char.isDigit)) then
    let (t, rest) ← numeral (c :: cs)
    return (some t, rest)
  else if c = '"' || c = '\'' then
    let (bytes, rest) ← quoted c limit cs
    return (some (.text bytes), rest)
  else if c = '-' && cs.head? = some '-' then
    return (none, ← afterComment (cs.drop 1))
  else match longBracket? (c :: cs) with
    | some (level, rest) =>
      let (bytes, rest) ← long (closingBracket level) (afterLineEnd rest)
      return (some (.text bytes), rest)
    | none =>
      match symbol? (c :: cs) with
      | some (t, rest) =>
        if t == .symbol "[" && cs.head? = some '=' then .error .unfinished
        else return (some t, rest)
      | none => .error (.character c)

/-- The tokens that characters form, of which a step takes at least one. -/
def tokens (limit : Nat) : (fuel : Nat) → List Char → Except ReadFault (List Token)
  | 0, _ | _, [] => .ok []
  | fuel + 1, c :: cs => do
    let (t, rest) ← first limit c cs
    let ts ← tokens limit fuel rest
    return t.toList ++ ts

/-- The tokens of a script. -/
def ofText (source : String) : Except ReadFault (List Token) :=
  let cs := source.toList
  tokens cs.length cs.length cs

end Token

end TextTemplate.Embedded
