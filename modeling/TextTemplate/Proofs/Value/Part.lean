import TextTemplate.Value.Display
set_option autoImplicit false

/-!
# Part: what lists and maps consist of

The parts of a value are the items of a list and the values of a map, counted from zero.  A
position leads from a value to one of its parts, to a part of that, and so on.  What holds of a
value whenever it holds of all its parts holds of every value (`byParts`).
-/

namespace TextTemplate.Value

variable {ω : Type}

/-! ## Positions -/

/-- The item of a list, or the value of a map, that `i` others precede. -/
def part? : Value ω → Nat → Option (Value ω)
  | list items, i => items[i]?
  | map entries, i => entries[i]?.map Prod.snd
  | _, _ => none

/-- What is at a position. -/
def at? : Value ω → List Nat → Option (Value ω)
  | v, [] => some v
  | v, i :: position => (v.part? i).bind (at? · position)

theorem at?_cons (v : Value ω) (i : Nat) (position : List Nat) :
    v.at? (i :: position) = (v.part? i).bind (at? · position) := rfl

theorem sizeOf_part?_lt {v w : Value ω} {i : Nat} (h : v.part? i = some w) :
    sizeOf w < sizeOf v := by
  cases v with
  | list items =>
    have hmem := List.sizeOf_lt_of_mem (List.mem_of_getElem? h)
    rw [list.sizeOf_spec]
    omega
  | map entries =>
    obtain ⟨⟨key, w⟩, he, rfl⟩ := Option.map_eq_some_iff.1 h
    have hmem := List.sizeOf_lt_of_mem (List.mem_of_getElem? he)
    rw [Prod.mk.sizeOf_spec] at hmem
    rw [map.sizeOf_spec]
    dsimp only
    omega
  | _ => cases h

/-- What a value inherits from its parts, every value has. -/
@[elab_as_elim]
theorem byParts {motive : Value ω → Prop}
    (inherit : ∀ v, (∀ i w, v.part? i = some w → motive w) → motive v) (v : Value ω) : motive v :=
  inherit v fun _ w _ => byParts inherit w
termination_by sizeOf v
decreasing_by exact sizeOf_part?_lt ‹_›

/-! ## Absent parts -/

mutual

/-- The value with the text `null` for everything absent in it. -/
def spelled : Value ω → Value ω
  | null => str "null"
  | bool b => bool b
  | int i => int i
  | float x => float x
  | str s => str s
  | list items => list (spelledItems items)
  | map entries => map (spelledEntries entries)
  | object o => object o

/-- The items of a list with the text `null` for everything absent in them. -/
def spelledItems : List (Value ω) → List (Value ω)
  | [] => []
  | v :: vs => spelled v :: spelledItems vs

/-- The entries of a map with the text `null` for everything absent in their values. -/
def spelledEntries : List (String × Value ω) → List (String × Value ω)
  | [] => []
  | (k, v) :: es => (k, spelled v) :: spelledEntries es

end

theorem spelledItems_eq_map (vs : List (Value ω)) : spelledItems vs = vs.map spelled := by
  induction vs with
  | nil => rfl
  | cons v vs ih => rw [spelledItems, ih, List.map_cons]

theorem spelledEntries_eq_map (es : List (String × Value ω)) :
    spelledEntries es = es.map fun e => (e.1, e.2.spelled) := by
  induction es with
  | nil => rfl
  | cons e es ih => rw [spelledEntries, ih, List.map_cons]

theorem part?_spelled (v : Value ω) (i : Nat) : v.spelled.part? i = (v.part? i).map spelled := by
  cases v with
  | list items => rw [spelled, spelledItems_eq_map, part?, part?, List.getElem?_map]
  | map entries =>
    rw [spelled, spelledEntries_eq_map, part?, part?, List.getElem?_map, Option.map_map,
      Option.map_map]
    rfl
  | _ => rfl

/-- At every position is what was there, spelled. -/
theorem at?_spelled (v : Value ω) (position : List Nat) :
    v.spelled.at? position = (v.at? position).map spelled := by
  induction position generalizing v with
  | nil => rfl
  | cons i position ih =>
    rw [at?_cons, at?_cons, part?_spelled]
    cases v.part? i with
    | none => rfl
    | some w => exact ih w

/-- Nothing absent is left at any position. -/
theorem at?_spelled_ne_null (v : Value ω) (position : List Nat) :
    v.spelled.at? position ≠ some null := by
  intro h
  rw [at?_spelled, Option.map_eq_some_iff] at h
  obtain ⟨w, -, hw⟩ := h
  cases w <;> cases hw

mutual

/-- An absent value in a list or map is written as the text `null` is. -/
theorem display_spelled (host : Host ω) (v : Value ω) :
    v.spelled.display host = v.display host := by
  cases v with
  | list items => rw [spelled, display, display, displayItems_spelled]
  | map entries => rw [spelled, display, display, displayEntries_spelled]
  | _ => rfl

theorem displayItems_spelled (host : Host ω) (vs : List (Value ω)) :
    displayItems host (spelledItems vs) = displayItems host vs := by
  cases vs with
  | nil => rfl
  | cons v vs =>
    rw [spelledItems, displayItems, displayItems, display_spelled, displayItems_spelled]

theorem displayEntries_spelled (host : Host ω) (es : List (String × Value ω)) :
    displayEntries host (spelledEntries es) = displayEntries host es := by
  cases es with
  | nil => rfl
  | cons e es =>
    rw [spelledEntries, displayEntries, displayEntries, display_spelled, displayEntries_spelled]

end

end TextTemplate.Value
