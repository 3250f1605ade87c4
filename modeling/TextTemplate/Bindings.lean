import TextTemplate.Entries
import TextTemplate.Value
set_option autoImplicit false

/-!
# Bindings: the names that a template is rendered with

Bindings are values under names, each name once and in name order, which is also the order in which
they reach a script session.
-/

namespace TextTemplate

/-- Values under names, in name order. -/
structure Bindings (ω : Type) where
  entries : Entries String (Value ω)
  ordered : Entries.Ordered entries

namespace Bindings

variable {ω : Type}

/-- Nothing is bound. -/
def empty : Bindings ω := ⟨[], Entries.ordered_nil⟩

instance : Inhabited (Bindings ω) := ⟨empty⟩

/-- Binds every name to its value, from the first to the last. -/
def ofList (es : List (String × Value ω)) : Bindings ω :=
  ⟨Entries.ofList es, Entries.ordered_ofList es⟩

/-- The names and values, in name order. -/
def toList (b : Bindings ω) : List (String × Value ω) := b.entries

/-- What `name` is bound to; it may be bound to the absent value. -/
def get? (b : Bindings ω) (name : String) : Option (Value ω) := Entries.find? name b.entries

/-- Binds `name`, in place of what it was bound to. -/
def insert (b : Bindings ω) (name : String) (v : Value ω) : Bindings ω :=
  ⟨Entries.insert name v b.entries, Entries.ordered_insert b.ordered⟩

/-- Removes the binding of `name`. -/
def erase (b : Bindings ω) (name : String) : Bindings ω :=
  ⟨Entries.erase name b.entries, Entries.ordered_erase b.ordered⟩

/-- The bound names, in order. -/
def names (b : Bindings ω) : List String := Entries.keys b.entries

/-- How many names are bound. -/
def size (b : Bindings ω) : Nat := b.entries.length

/-- Is nothing bound? -/
def isEmpty (b : Bindings ω) : Bool := b.entries.isEmpty

/-- Is `name` bound, if only to the absent value? -/
def contains (b : Bindings ω) (name : String) : Bool := (b.get? name).isSome

instance [BEq ω] : BEq (Bindings ω) := ⟨fun a b => Value.beqEntries a.entries b.entries⟩

end Bindings

end TextTemplate
