import TextTemplate.Text
set_option autoImplicit false

/-!
# Span: a placeholder in a template

A placeholder stands between an open marker and the close marker after it.  Its content either names
a binding or names one and goes on, after the first dot, with a path of members.
-/

namespace TextTemplate.Placeholder

/-- What opens a placeholder. -/
def openMarker : Text := ['$', '{']

/-- What closes a placeholder. -/
def closeMarker : Text := ['}']

/-- What stands between the names of a path. -/
def separator : Char := '.'

/-- What a placeholder asks for: a binding, or a member path that starts at one. -/
inductive Content where
  | direct (name : String)
  | dotted (root continuation : String)
  deriving DecidableEq, Repr, Inhabited

/-- A placeholder: what it asks for, and the positions of its open and close markers. -/
structure Span where
  content : Content
  opening : Nat
  closing : Nat
  deriving DecidableEq, Repr, Inhabited

namespace Span

/-- The position just past the close marker. -/
def stop (s : Span) : Nat := s.closing + Text.byteSize closeMarker

/-- The placeholder as it is written in `text`, markers included. -/
def raw (s : Span) (text : Text) : Except BadRange Text := Text.slice text s.opening s.stop

end Span

end TextTemplate.Placeholder
