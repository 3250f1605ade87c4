import TextTemplate.Placeholder.Resolution
set_option autoImplicit false

/-!
# Variant: other formats and strategies

Two value formatters that show what they are given, and a strategy for texts.
-/

namespace TextTemplate.Fixture

variable {ω : Type}

/-- Shows everything that a value formatter is given. -/
def tagged (host : Host ω) : ValueFormatter ω := fun token v nullString =>
  "<" ++ token ++ "|" ++ v.kind ++ "|" ++ v.display host ++ "|" ++ nullString ++ ">"

/-- Shows a value that is not absent with what led to it. -/
def withToken (host : Host ω) : ValueFormatter ω := fun token v nullString =>
  if v.isNull then nullString else token ++ "=" ++ v.display host

/-- `reversed` denotes a text read backwards. -/
def reverse : Strategy ω where
  name := "reverse"
  find v property :=
    match v, property with
    | .str s, "reversed" => pure (some (.str (String.ofList s.toList.reverse)))
    | _, _ => pure none

end TextTemplate.Fixture
