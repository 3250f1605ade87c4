import TextTemplate.Text
import TextTemplate.Value.Member
set_option autoImplicit false

/-!
# Path: from a value to one of its members' members

A path is names with dots between them.  Walking one, every name takes the current value to its
member of that name, found by the first strategy that has an answer.  Once the absent value is
reached the rest of the path is no longer looked at and the path is still a valid one; a name that
is empty, or that no strategy knows, ends the walk.
-/

namespace TextTemplate

/-- A way to find the member of a value that a name denotes. -/
structure Strategy (ω : Type) where
  name : String
  find : Value ω → String → Logged ω (Option (Value ω))

namespace Strategy

variable {ω : Type}

/-- Calls a method; a failing one counts as one that the value does not have. -/
def invoke (host : Host ω) (v : Value ω) (method : String) : Logged ω (Option (Value ω)) := do
  match ← v.call host method with
  | some (.ok result) => return some result
  | _ => return none

/-- A name denotes the field of that name. -/
def field (host : Host ω) : Strategy ω := ⟨"field", Value.field host⟩

/-- A name denotes what the getter made from it gives, with `get` before it or else with `is`. -/
def bean (host : Host ω) : Strategy ω where
  name := "bean"
  find v property := do
    let base := Unicode.capitalize property
    match ← invoke host v ("get" ++ base) with
    | some result => return some result
    | none => invoke host v ("is" ++ base)

/-- A name denotes what the method of that name gives. -/
def method (host : Host ω) : Strategy ω := ⟨"method", invoke host⟩

/-- What the first strategy with an answer finds. -/
def findFirst : List (Strategy ω) → Value ω → String → Logged ω (Option (Value ω))
  | [], _, _ => pure none
  | s :: ss, v, property => do
    match ← s.find v property with
    | some found => return some found
    | none => findFirst ss v property

end Strategy

namespace Path

variable {ω : Type}

/-- The names of a path. -/
def names (path : String) : List String := (Text.split '.' path.toList).map String.ofList

/-- Where a walk ends: at a value, at the absent value, or before a name without a member. -/
inductive Outcome (ω : Type) where
  | present (value : Value ω)
  | absent
  | missing (property : String)
  deriving Repr, Inhabited

/-- The member that one name denotes. -/
def step (strategies : List (Strategy ω)) (v : Value ω) (property : String) :
    Logged ω (Option (Value ω)) :=
  if property.isEmpty then pure none else Strategy.findFirst strategies v property

/-- Walks along names. -/
def walk (strategies : List (Strategy ω)) : Value ω → List String → Logged ω (Outcome ω)
  | v, [] => pure (if v.isNull then .absent else .present v)
  | v, property :: rest =>
    if v.isNull then walk strategies v rest
    else do
      match ← step strategies v property with
      | some next => walk strategies next rest
      | none => return .missing property

/-- Walks along a path. -/
def resolve (strategies : List (Strategy ω)) (root : Value ω) (path : String) :
    Logged ω (Outcome ω) :=
  walk strategies root (names path)

end Path

end TextTemplate
