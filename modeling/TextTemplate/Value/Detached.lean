import TextTemplate.Value.Member
set_option autoImplicit false

/-!
# Detached: values without host objects

A value is detached by reading every object in it once: an object that has fields becomes the map of
those that are present, any other its text.  What a field holds may be an object again, and a host
may go on handing out objects for ever, so the objects inside one another are counted.
-/

namespace TextTemplate.Value

variable {ω : Type}

/-- A value that refers to no object. -/
abbrev Detached := Value Empty

/-- What comes of reading objects; nothing if they are nested too deeply. -/
abbrev Reading (ω α : Type) := OptionT (Logged ω) α

mutual

/-- Detaches a value, given how an object is detached. -/
def detachWith (object : ω → Reading ω Detached) : Value ω → Reading ω Detached
  | null => return null
  | bool b => return bool b
  | int i => return int i
  | float x => return float x
  | str s => return str s
  | list items => return list (← detachItems object items)
  | map entries => return map (← detachEntries object entries)
  | .object o => object o

/-- Detaches the items of a list. -/
def detachItems (object : ω → Reading ω Detached) : List (Value ω) → Reading ω (List Detached)
  | [] => return []
  | v :: vs => do
    let d ← detachWith object v
    return d :: (← detachItems object vs)

/-- Detaches the entries of a map. -/
def detachEntries (object : ω → Reading ω Detached) :
    List (String × Value ω) → Reading ω (List (String × Detached))
  | [] => return []
  | (k, v) :: es => do
    let d ← detachWith object v
    return (k, d) :: (← detachEntries object es)

end

/-- Reads the fields of an object and detaches those that are present. -/
def detachFields (host : Host ω) (object : ω → Reading ω Detached) (o : ω) :
    List String → Reading ω (List (String × Detached))
  | [] => return []
  | name :: names => do
    match ← OptionT.lift (Value.field host (.object o) name) with
    | none => detachFields host object o names
    | some v =>
      let d ← detachWith object v
      return (name, d) :: (← detachFields host object o names)

/-- Detaches an object with fewer than `depth` objects inside one another behind its fields. -/
def detachObject (host : Host ω) : (depth : Nat) → ω → Reading ω Detached
  | 0, _ => failure
  | depth + 1, o =>
    match host.fieldNames o with
    | [] => return str (host.display o)
    | names => return ofEntries (← detachFields host (detachObject host depth) o names)

/-- Detaches a value in which at most `depth` objects are nested inside one another. -/
def detach (host : Host ω) (depth : Nat) : Value ω → Reading ω Detached :=
  detachWith (detachObject host depth)

end TextTemplate.Value
