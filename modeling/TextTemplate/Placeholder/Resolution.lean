import TextTemplate.Bindings
import TextTemplate.Path
import TextTemplate.Placeholder.Span
set_option autoImplicit false

/-!
# Resolution: what a placeholder is replaced by

A placeholder that names a binding is replaced by the text of its value, the absent value having a
text of its own.  One with a member path is replaced by the text of the value at the end of the
path, or by nothing if the path ends at the absent value.  A placeholder whose name is not bound or
whose path is not valid is left as it is written.
-/

namespace TextTemplate

/-- Turns a value into text.  It is given the name or the member path that led to the value, the
value, and the text for the absent value. -/
abbrev ValueFormatter (ω : Type) := String → Value ω → String → String

/-- Every value as its text. -/
def ValueFormatter.display {ω : Type} (host : Host ω) : ValueFormatter ω :=
  fun _ v nullString => v.textOr host nullString

namespace Placeholder

variable {ω : Type}

/-- The fate of a placeholder. -/
inductive Resolution where
  | resolved (text : String)
  | resolvedNull
  | unresolved
  deriving DecidableEq, Repr, Inhabited

/-- What takes the place of the placeholder; nothing if it stays. -/
def Resolution.replacement? : Resolution → Option String
  | resolved text => some text
  | resolvedNull => some ""
  | unresolved => none

/-- What a placeholder is resolved with. -/
structure Resolver (ω : Type) where
  strategies : List (Strategy ω)
  format : ValueFormatter ω
  nullString : String

namespace Resolver

/-- Resolves one placeholder. -/
def resolve (r : Resolver ω) (bindings : Bindings ω) (span : Span) : Logged ω Resolution :=
  match span.content with
  | .direct name =>
    match bindings.get? name with
    | some v => pure (.resolved (r.format name v r.nullString))
    | none => pure .unresolved
  | .dotted root continuation =>
    match bindings.get? root with
    | none => pure .unresolved
    | some v => do
      match ← Path.resolve r.strategies v continuation with
      | .present v => return .resolved (r.format continuation v r.nullString)
      | .absent => return .resolvedNull
      | .missing _ => return .unresolved

/-- The replacements for the placeholders `spans`, of which those that open before byte `copied` lie
inside a replaced one and are passed over. -/
def select (r : Resolver ω) (bindings : Bindings ω) :
    (copied : Nat) → (spans : List Span) → Logged ω (List Text.Edit)
  | _, [] => pure []
  | copied, span :: spans =>
    if span.opening < copied then select r bindings copied spans
    else do
      match (← r.resolve bindings span).replacement? with
      | none => select r bindings copied spans
      | some text =>
        let edits ← select r bindings span.stop spans
        return ⟨span.opening, span.stop, text.toList⟩ :: edits

end Resolver

end Placeholder

end TextTemplate
