import TextTemplate.Bindings
import TextTemplate.Event
import TextTemplate.Proofs.Entries
import TextTemplate.Value.Display
set_option autoImplicit false

/-!
# Mapped: the same values over other objects

A value refers to objects at any depth.  `mapObjects` replaces each of them and keeps the rest, in
values and in everything that is made of values: bindings, events, and results with their events.
-/

namespace TextTemplate

variable {ω ω' : Type} (g : ω → ω')

/-! ## Values -/

namespace Value

mutual

/-- The value with `g o` for every object `o` in it. -/
def mapObjects : Value ω → Value ω'
  | null => null
  | bool b => bool b
  | int i => int i
  | float x => float x
  | str s => str s
  | list items => list (mapItems items)
  | map entries => map (mapEntries entries)
  | object o => object (g o)

/-- The items of a list with their objects replaced. -/
def mapItems : List (Value ω) → List (Value ω')
  | [] => []
  | v :: vs => mapObjects v :: mapItems vs

/-- The entries of a map with the objects in their values replaced. -/
def mapEntries : List (String × Value ω) → List (String × Value ω')
  | [] => []
  | (k, v) :: es => (k, mapObjects v) :: mapEntries es

end

theorem mapItems_eq_map (vs : List (Value ω)) : mapItems g vs = vs.map (mapObjects g) := by
  induction vs with
  | nil => rfl
  | cons v vs ih => rw [mapItems, ih, List.map_cons]

theorem mapEntries_eq_map (es : List (String × Value ω)) :
    mapEntries g es = es.map fun e => (e.1, e.2.mapObjects g) := by
  induction es with
  | nil => rfl
  | cons e es ih => rw [mapEntries, ih, List.map_cons]

@[simp] theorem isNull_mapObjects (v : Value ω) : (v.mapObjects g).isNull = v.isNull := by
  cases v <;> rfl

mutual

theorem mapObjects_id (v : Value ω) : v.mapObjects id = v := by
  cases v with
  | list items => rw [mapObjects, mapItems_id]
  | map entries => rw [mapObjects, mapEntries_id]
  | _ => rfl

theorem mapItems_id (vs : List (Value ω)) : mapItems id vs = vs := by
  cases vs with
  | nil => rfl
  | cons v vs => rw [mapItems, mapObjects_id v, mapItems_id vs]

theorem mapEntries_id (es : List (String × Value ω)) : mapEntries id es = es := by
  cases es with
  | nil => rfl
  | cons e es => rw [mapEntries, mapObjects_id e.2, mapEntries_id es]

end

section

variable {g} {host : Host ω} {host' : Host ω'}

mutual

/-- Objects with the same texts give the same texts to the values they are in. -/
theorem display_mapObjects (h : ∀ o, host'.display (g o) = host.display o) (v : Value ω) :
    (v.mapObjects g).display host' = v.display host := by
  cases v with
  | list items => rw [mapObjects, display, display, displayItems_mapItems h]
  | map entries => rw [mapObjects, display, display, displayEntries_mapEntries h]
  | object o => exact h o
  | _ => rfl

theorem displayItems_mapItems (h : ∀ o, host'.display (g o) = host.display o)
    (vs : List (Value ω)) : displayItems host' (mapItems g vs) = displayItems host vs := by
  cases vs with
  | nil => rfl
  | cons v vs =>
    rw [mapItems, displayItems, displayItems, display_mapObjects h, displayItems_mapItems h]

theorem displayEntries_mapEntries (h : ∀ o, host'.display (g o) = host.display o)
    (es : List (String × Value ω)) :
    displayEntries host' (mapEntries g es) = displayEntries host es := by
  cases es with
  | nil => rfl
  | cons e es =>
    rw [mapEntries, displayEntries, displayEntries, display_mapObjects h,
      displayEntries_mapEntries h]

end

theorem textOr_mapObjects (h : ∀ o, host'.display (g o) = host.display o) (nullString : String)
    (v : Value ω) : (v.mapObjects g).textOr host' nullString = v.textOr host nullString := by
  cases v with
  | null => rfl
  | _ => exact display_mapObjects h _

end

end Value

/-! ## Bindings -/

/-- The same names, bound to the values with their objects replaced. -/
def Bindings.mapObjects (bindings : Bindings ω) : Bindings ω' :=
  ⟨bindings.entries.map fun e => (e.1, e.2.mapObjects g), Entries.ordered_map bindings.ordered⟩

theorem Bindings.get?_mapObjects (bindings : Bindings ω) (name : String) :
    (bindings.mapObjects g).get? name = (bindings.get? name).map (Value.mapObjects g) :=
  Entries.find?_map _ name bindings.entries

theorem Bindings.mapObjects_id (bindings : Bindings ω) : bindings.mapObjects id = bindings := by
  cases bindings
  simp only [mapObjects, Value.mapObjects_id, List.map_id']

/-! ## Events -/

/-- The same access to the object that takes the place of the accessed one. -/
def Access.mapObjects : Access ω → Access ω'
  | field o name => field (g o) name
  | call o name => call (g o) name

/-- The same call with the objects in its value replaced. -/
def Call.mapObjects : Call ω → Call ω'
  | create => create
  | set name v => set name (v.mapObjects g)
  | eval source => eval source
  | unset name => unset name

/-- The same event with its objects replaced. -/
def Event.mapObjects : Event ω → Event ω'
  | access a => access (a.mapObjects g)
  | call c => call (c.mapObjects g)
  | abort => abort

theorem Event.mapObjects_id (e : Event ω) : e.mapObjects id = e := by
  cases e with
  | access a => cases a <;> rfl
  | call c =>
    cases c with
    | set name v => rw [mapObjects, Call.mapObjects, Value.mapObjects_id]
    | _ => rfl
  | abort => rfl

namespace Logged

variable {α α' β β' : Type}

/-- The same events with their objects replaced, and `k` of the result. -/
def mapObjects (k : α → α') (x : Logged ω α) : Logged ω' α' :=
  ⟨x.events.map (Event.mapObjects g), k x.result⟩

@[simp] theorem mapObjects_pure (k : α → α') (a : α) :
    (Pure.pure a : Logged ω α).mapObjects g k = Pure.pure (k a) := rfl

/-- Two steps are mapped one by one. -/
theorem mapObjects_bind {x : Logged ω α} {f : α → Logged ω β} {k : α → α'} {k' : β → β'}
    {f' : α' → Logged ω' β'} (h : ∀ a, f' (k a) = (f a).mapObjects g k') :
    x.mapObjects g k >>= f' = (x >>= f).mapObjects g k' := by
  have hresult := h x.result
  simp only [mapObjects, Bind.bind, Logged.bind, hresult, List.map_append]

end Logged

end TextTemplate
