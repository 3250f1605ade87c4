set_option autoImplicit false

/-!
# Bytes: texts as bytes

A text has a form of bytes, UTF-8.  Not all bytes are the form of a text.
-/

namespace TextTemplate

/-- A sequence of bytes. -/
abbrev Bytes := List UInt8

namespace Bytes

/-- The UTF-8 form of a text. -/
def ofString (s : String) : Bytes := s.toUTF8.data.toList

/-- The text that has the bytes as its UTF-8 form, if there is one. -/
def toString? (bytes : Bytes) : Option String := String.fromUTF8? ⟨bytes.toArray⟩

theorem toString?_ofString (s : String) : toString? (ofString s) = some s := by
  have h : (⟨(ofString s).toArray⟩ : ByteArray) = s.toUTF8 := by simp [ofString]
  simp only [toString?, h, String.fromUTF8?, String.toUTF8_eq_toByteArray, dif_pos s.isValidUTF8]
  rfl

end Bytes

end TextTemplate
