import TextTemplate.Embedded.Numeral
import TextTemplate.Text.Bytes
set_option autoImplicit false

/-!
# Token: the words of a script

A script is a sequence of names, reserved words, numbers, texts and symbols.  A text denotes bytes,
which need not be the UTF-8 form of characters.
-/

namespace TextTemplate.Embedded

/-- Why a script cannot be read. -/
inductive ReadFault where
  /-- the script ends in the middle of something -/
  | unfinished
  /-- a character that begins no token -/
  | character (c : Char)
  /-- a number that is written wrongly -/
  | number
  /-- a line end inside a text in quotation marks -/
  | lineEnd
  /-- a backslash that is followed by no escape -/
  | escape
  /-- a token that cannot stand where it is -/
  | token
  /-- expressions or statements nested too deeply -/
  | depth
  deriving DecidableEq, Repr, Inhabited

namespace ReadFault

/-- The fault as it is shown. -/
def message : ReadFault → String
  | unfinished => "unexpected end of script"
  | character c => "unexpected character '" ++ c.toString ++ "'"
  | number => "malformed number"
  | lineEnd => "unfinished text"
  | escape => "invalid escape sequence"
  | token => "unexpected token"
  | depth => "script nested too deeply"

end ReadFault

/-- A word of a script. -/
inductive Token where
  | name (text : String)
  | reserved (word : String)
  | number (n : Number)
  | text (bytes : Bytes)
  | symbol (text : String)
  deriving BEq, Inhabited

/-- The words that are no names. -/
def reservedWords : List String :=
  ["and", "break", "do", "else", "elseif", "end", "false", "for", "function", "goto", "if", "in",
    "local", "nil", "not", "or", "repeat", "return", "then", "true", "until", "while"]

/-- The symbols, each before those that it begins with. -/
def symbols : List String :=
  ["...", "..", "<<", ">>", "//", "==", "~=", "<=", ">=", "::", "+", "-", "*", "/", "%", "^", "#",
    "&", "~", "|", "<", ">", "=", "(", ")", "\x7b", "\x7d", "[", "]", ";", ":", ",", "."]

end TextTemplate.Embedded
