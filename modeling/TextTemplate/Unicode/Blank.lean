import TextTemplate.Unicode.Range
set_option autoImplicit false

/-!
# Blank: the characters that `trim` removes

The property White_Space of the Unicode standard.
-/

namespace TextTemplate.Unicode

/-- The characters with the property White_Space. -/
def whiteSpace : Ranges :=
  [(0x9, 0xD), (0x20, 0x20), (0x85, 0x85), (0xA0, 0xA0), (0x1680, 0x1680), (0x2000, 0x200A),
   (0x2028, 0x2029), (0x202F, 0x202F), (0x205F, 0x205F), (0x3000, 0x3000)]

/-- Is the character white space? -/
def isBlank (c : Char) : Bool := whiteSpace.has c

/-- Without white space at either end. -/
def trim (s : String) : String :=
  String.ofList (((s.toList.dropWhile isBlank).reverse.dropWhile isBlank).reverse)

/-- The blanks of the ASCII range are white space. -/
theorem isBlank_of_isWhitespace {c : Char} (h : c.isWhitespace = true) : isBlank c = true := by
  simp only [Char.isWhitespace, Bool.or_eq_true, decide_eq_true_eq] at h
  rcases h with ((rfl | rfl) | rfl) | rfl <;> decide

end TextTemplate.Unicode
