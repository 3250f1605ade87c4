set_option autoImplicit false

/-!
# Text: characters counted in bytes

A template is a list of characters, and every position in one is a count of bytes of its UTF-8
form.  A count that ends inside a character is therefore expressible, and cutting there is an error
of its own, `BadRange`, rather than a silent adjustment.  The module fixes three things: how long a
text is, what the piece between two positions is, and where a text first occurs in another.
-/

namespace TextTemplate

/-- A text is a list of characters. -/
abbrev Text := List Char

/-- The byte positions `lower` and `upper` bound no piece of a text: they are in the wrong order,
past its end, or inside a character. -/
structure BadRange where
  lower : Nat
  upper : Nat
  deriving DecidableEq, Repr, Inhabited

namespace Text

/-! ## Length and pieces -/

/-- The length of a text in bytes. -/
def byteSize : Text → Nat
  | [] => 0
  | c :: cs => c.utf8Size + byteSize cs

/-- What follows the first `n` bytes; nothing if the text is shorter or `n` lies inside a
character. -/
def after? : Text → Nat → Option Text
  | t, 0 => some t
  | [], _ + 1 => none
  | c :: cs, n + 1 => if c.utf8Size ≤ n + 1 then after? cs (n + 1 - c.utf8Size) else none

/-- The first `n` bytes; nothing if the text is shorter or `n` lies inside a character. -/
def upTo? : Text → Nat → Option Text
  | _, 0 => some []
  | [], _ + 1 => none
  | c :: cs, n + 1 =>
    if c.utf8Size ≤ n + 1 then (upTo? cs (n + 1 - c.utf8Size)).map (c :: ·) else none

/-- The piece from byte `lower` up to byte `upper`. -/
def slice (t : Text) (lower upper : Nat) : Except BadRange Text :=
  if lower ≤ upper then
    match (after? t lower).bind (upTo? · (upper - lower)) with
    | some piece => .ok piece
    | none => .error ⟨lower, upper⟩
  else .error ⟨lower, upper⟩

/-- The piece from byte `lower` to the end. -/
def sliceFrom (t : Text) (lower : Nat) : Except BadRange Text :=
  match after? t lower with
  | some piece => .ok piece
  | none => .error ⟨lower, byteSize t⟩

/-! ## Search -/

/-- The position of the first occurrence of `needle`. -/
def find? (needle : Text) : Text → Option Nat
  | [] => if needle.isEmpty then some 0 else none
  | c :: cs =>
    if needle.isPrefixOf (c :: cs) then some 0 else (find? needle cs).map (c.utf8Size + ·)

/-! ## Cutting -/

/-- Cuts a text at every `sep`; there is one piece more than there are cuts. -/
def split (sep : Char) : Text → List Text
  | [] => [[]]
  | c :: cs =>
    if c = sep then [] :: split sep cs
    else match split sep cs with
      | [] => [[c]]
      | piece :: pieces => (c :: piece) :: pieces

/-! ## Replacement -/

/-- A piece of a text, from byte `start` up to byte `stop`, and what takes its place. -/
structure Edit where
  start : Nat
  stop : Nat
  replacement : Text
  deriving DecidableEq, Repr, Inhabited

/-- Carries out `edits`, which are in order and do not overlap, on what follows byte `copied`.
Everything between two edits is kept as it is. -/
def splice (t : Text) (copied : Nat) : List Edit → Except BadRange Text
  | [] => sliceFrom t copied
  | e :: es => do
    let gap ← slice t copied e.start
    let rest ← splice t e.stop es
    return gap ++ e.replacement ++ rest

end Text

end TextTemplate
