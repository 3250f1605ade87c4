import TextTemplate.Unicode.Printable
set_option autoImplicit false

/-!
# Quoted: a text between quotation marks

A quotation mark or a backslash in the text is preceded by a backslash, the common controls have a
letter each, and every other character without a shape of its own is shown by its code point.
-/

namespace TextTemplate.Text

/-- The lower-case hexadecimal digits of a number. -/
def hexDigits (n : Nat) : List Char := Nat.toDigits 16 n

/-- How one character of a quoted text is shown. -/
def quotedChar (c : Char) : List Char :=
  if c = '"' ∨ c = '\\' then ['\\', c]
  else if c = '\n' then ['\\', 'n']
  else if c = '\r' then ['\\', 'r']
  else if c = '\t' then ['\\', 't']
  else if c = '\x00' then ['\\', '0']
  else if Unicode.isPrintable c then [c]
  else ['\\', 'u', '{'] ++ hexDigits c.toNat ++ ['}']

/-- The text between quotation marks. -/
def quoted (s : String) : String :=
  String.ofList ('"' :: s.toList.flatMap quotedChar ++ ['"'])

end TextTemplate.Text
