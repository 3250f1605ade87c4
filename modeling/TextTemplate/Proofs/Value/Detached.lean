import TextTemplate.Proofs.Value.Normal
import TextTemplate.Value.Detached
set_option autoImplicit false

/-!
# Detached: what comes of reading the objects in a value

Detaching a container detaches its parts.  An object with named fields is detached as the map of its
fields is, at a depth that is one less (`outcome_detachObject`).
-/

namespace TextTemplate.Value

variable {ω α β : Type} {host : Host ω}

/-- What a reading comes to. -/
def outcome (x : Reading ω α) : Option α := x.run.result

@[simp] theorem outcome_pure (a : α) : outcome (pure a : Reading ω α) = some a := rfl

@[simp] theorem outcome_lift (x : Logged ω α) :
    outcome (OptionT.lift x : Reading ω α) = some x.result := rfl

@[simp] theorem outcome_bind (x : Reading ω α) (f : α → Reading ω β) :
    outcome (x >>= f) = (outcome x).bind fun a => outcome (f a) := by
  unfold outcome
  rw [OptionT.run_bind, Option.elimM, Logged.bind_result]
  cases x.run.result <;> rfl

section Parts

variable {object : ω → Reading ω Detached} {item : Value ω → Detached}

theorem outcome_detachItems {items : List (Value ω)}
    (h : ∀ v ∈ items, outcome (detachWith object v) = some (item v)) :
    outcome (detachItems object items) = some (items.map item) := by
  induction items with
  | nil => rfl
  | cons v items ih =>
    obtain ⟨hv, hitems⟩ := List.forall_mem_cons.1 h
    simp only [detachItems, outcome_bind, hv, ih hitems, Option.bind_some, outcome_pure,
      List.map_cons]

theorem outcome_detachEntries {es : List (String × Value ω)}
    (h : ∀ e ∈ es, outcome (detachWith object e.2) = some (item e.2)) :
    outcome (detachEntries object es) = some (es.map fun e => (e.1, item e.2)) := by
  induction es with
  | nil => rfl
  | cons e es ih =>
    obtain ⟨he, hes⟩ := List.forall_mem_cons.1 h
    simp only [detachEntries, outcome_bind, he, ih hes, Option.bind_some, outcome_pure,
      List.map_cons]

/-- Entries that can be detached have values that can be. -/
theorem exists_outcome_of_detachEntries {es : List (String × Value ω)}
    {ds : List (String × Detached)} (h : outcome (detachEntries object es) = some ds) :
    ∀ e ∈ es, ∃ d, outcome (detachWith object e.2) = some d := by
  induction es generalizing ds with
  | nil => exact fun e he => absurd he List.not_mem_nil
  | cons e es ih =>
    simp only [detachEntries, outcome_bind, Option.bind_eq_some_iff] at h
    obtain ⟨d, hd, ds', hds, -⟩ := h
    exact List.forall_mem_cons.2 ⟨⟨d, hd⟩, ih hds⟩

theorem mem_fields {o : ω} {e : String × Value ω} :
    e ∈ fields host o ↔ e.1 ∈ host.fieldNames o ∧ host.field o e.1 = some e.2 := by
  simp only [fields, List.mem_filterMap, Option.map_eq_some_iff]
  constructor
  · rintro ⟨name, hname, v, hv, rfl⟩
    exact ⟨hname, hv⟩
  · rintro ⟨hname, hv⟩
    exact ⟨e.1, hname, e.2, hv, rfl⟩

theorem outcome_detachFields {o : ω} {names : List String}
    (h : ∀ name ∈ names, ∀ v, host.field o name = some v →
      outcome (detachWith object v) = some (item v)) :
    outcome (detachFields host object o names) =
      some ((names.filterMap fun name => (host.field o name).map (name, ·)).map
        fun e => (e.1, item e.2)) := by
  induction names with
  | nil => rfl
  | cons name names ih =>
    obtain ⟨hname, hnames⟩ := List.forall_mem_cons.1 h
    have hread : (Value.field host (.object o) name).result = host.field o name := rfl
    simp only [detachFields, outcome_bind, outcome_lift, hread, Option.bind_some]
    cases hfield : host.field o name with
    | none =>
      rw [ih hnames, List.filterMap_cons_none (by rw [hfield]; rfl)]
    | some v =>
      rw [List.filterMap_cons_some (by rw [hfield]; rfl)]
      simp only [outcome_bind, hname v hfield, ih hnames, Option.bind_some, outcome_pure,
        List.map_cons]

end Parts

/-- A field is in the map of the fields: an object has one value under a name. -/
theorem mem_ofList_fields {o : ω} {e : String × Value ω} (h : e ∈ fields host o) :
    e ∈ Entries.ofList (fields host o) := by
  refine Entries.mem_ofList h fun e' he' hname => ?_
  have hvalue := (mem_fields.1 he').2
  rw [hname, (mem_fields.1 h).2] at hvalue
  exact Prod.ext hname (Option.some.inj hvalue).symm

/-- An object with named fields is detached as the map of its fields is. -/
theorem outcome_detachObject {o : ω} (named : host.fieldNames o ≠ []) {depth : Nat} {d : Detached}
    (h : outcome (detach host depth (.ofEntries (fields host o))) = some d) :
    outcome (detach host (depth + 1) (.object o)) = some d := by
  simp only [detach, ofEntries, detachWith, outcome_bind, Option.bind_eq_some_iff] at h
  obtain ⟨ds, hds, hd⟩ := h
  have hparts := exists_outcome_of_detachEntries hds
  let item : Value ω → Detached := fun v => (outcome (detach host depth v)).getD .null
  have hitem : ∀ e ∈ fields host o,
      outcome (detachWith (detachObject host depth) e.2) = some (item e.2) := by
    intro e he
    obtain ⟨d, hd⟩ := hparts e (mem_ofList_fields he)
    simp only [item, detach, hd, Option.getD_some]
  have hmap : ds = (Entries.ofList (fields host o)).map fun e => (e.1, item e.2) := by
    have hentries := outcome_detachEntries fun e he => hitem e (Entries.mem_of_mem_ofList he)
    exact Option.some.inj (hds.symm.trans hentries)
  have hfields : outcome (detachFields host (detachObject host depth) o (host.fieldNames o)) =
      some ((fields host o).map fun e => (e.1, item e.2)) :=
    outcome_detachFields fun name hname v hv => hitem (name, v) (mem_fields.2 ⟨hname, hv⟩)
  have hobject : detachObject host (depth + 1) o = do
      return .ofEntries (← detachFields host (detachObject host depth) o (host.fieldNames o)) := by
    rw [detachObject]
    split
    · next hnone => exact absurd hnone named
    · rfl
  rw [detach, detachWith, hobject, outcome_bind, hfields, Option.bind_some, outcome_pure, ← hd,
    outcome_pure, hmap, Entries.map_ofList, ofEntries]

end TextTemplate.Value
