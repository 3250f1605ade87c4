import Mathlib.Data.List.Nodup
import Mathlib.Data.List.Perm.Subperm
import Mathlib.Logic.Relation
import TextTemplate.Embedded.Session
import TextTemplate.Proofs.Embedded.Table
set_option autoImplicit false

/-!
# Endless: results that contain themselves

A result is turned into a value by following its tables wherever they lead.  One table leads to
another (`Meets`) if the other is in it and all that is met before has a value.  This comes to an
end, whatever the depth that is allowed, exactly if no table that is met leads back to itself
(`exists_toValue_iff`), and then a depth of one more than there are tables is enough.
-/

namespace TextTemplate.Embedded

open Relation (ReflTransGen TransGen)

variable {ω : Type} {view : TableView} {heap : Heap}

/-! ## Entry by entry -/

section Slots

variable {item item' : Datum → Returning (Value ω)} {n : Nat} {ps qs : List (Key × Datum)}
  {es es' : List (Slot × Value ω)}

/-- The first entry decides: if it has no outcome there is none, if it is a fault that is it, and
otherwise the others go on. -/
theorem slots_cons (k : Key) (d : Datum) (ps : List (Key × Datum)) :
    slots item n ((k, d) :: ps) =
      match item d with
      | none => none
      | some (.error f) => some (.error f)
      | some (.ok v) =>
        match k.slot n with
        | .error f => some (.error f)
        | .ok slot =>
          match slots item n ps with
          | none => none
          | some (.error f) => some (.error f)
          | some (.ok es) => some (.ok ((slot, v) :: es)) := by
  rw [slots]
  rcases item d with _ | _ | v
  · rfl
  · rfl
  · cases k.slot n with
    | error f => rfl
    | ok slot => rcases slots item n ps with _ | _ | es <;> rfl

/-- Entries with values come first with the first entry. -/
theorem slots_cons_eq_ok_iff {k : Key} {d : Datum} :
    slots item n ((k, d) :: ps) = some (.ok es) ↔
      ∃ v slot es', item d = some (.ok v) ∧ k.slot n = .ok slot ∧
        slots item n ps = some (.ok es') ∧ es = (slot, v) :: es' := by
  rw [slots_cons]
  constructor
  · intro h
    split at h
    · cases h
    · cases h
    · next v hd =>
      split at h
      · cases h
      · next slot hk =>
        split at h
        · cases h
        · cases h
        · next es' hps =>
          cases h
          exact ⟨v, slot, es', hd, hk, hps, rfl⟩
  · rintro ⟨v, slot, es', hd, hk, hps, rfl⟩
    rw [hd, hk, hps]

theorem slots_append (h : slots item n ps = some (.ok es)) (h' : slots item n qs = some (.ok es')) :
    slots item n (ps ++ qs) = some (.ok (es ++ es')) := by
  induction ps generalizing es with
  | nil =>
    cases h
    exact h'
  | cons p ps ih =>
    obtain ⟨k, d⟩ := p
    obtain ⟨v, slot, es'', hd, hk, hps, rfl⟩ := slots_cons_eq_ok_iff.1 h
    exact slots_cons_eq_ok_iff.2 ⟨v, slot, _, hd, hk, ih hps, rfl⟩

/-- If entries have an outcome, so has each one that comes after entries with values only. -/
theorem exists_item_of_slots {r : Except Fault (List (Slot × Value ω))} {k : Key} {d : Datum}
    (hone : ∀ d r r', item d = some r → item' d = some r' → r = r')
    (hr : slots item n (ps ++ (k, d) :: qs) = some r) (hps : slots item' n ps = some (.ok es)) :
    ∃ r', item d = some r' := by
  induction ps generalizing r es with
  | nil =>
    rw [List.nil_append, slots_cons] at hr
    split at hr
    · cases hr
    · next f hd => exact ⟨_, hd⟩
    · next v hd => exact ⟨_, hd⟩
  | cons p ps ih =>
    obtain ⟨k', d'⟩ := p
    obtain ⟨v, slot, es'', hd', hk, hps', rfl⟩ := slots_cons_eq_ok_iff.1 hps
    rw [List.cons_append, slots_cons] at hr
    split at hr
    · cases hr
    · next f hd => cases hone _ _ _ hd hd'
    · next w hd =>
      rw [hk] at hr
      cases hrest : slots item n (ps ++ (k, d) :: qs) with
      | none =>
        rw [hrest] at hr
        cases hr
      | some r' => exact ih hrest hps'

/-- More outcomes of single data are more outcomes of entries. -/
theorem slots_of_agree (h : ∀ d r, item d = some r → item' d = some r)
    {r : Except Fault (List (Slot × Value ω))} (hr : slots item n ps = some r) :
    slots item' n ps = some r := by
  induction ps generalizing r with
  | nil => exact hr
  | cons p ps ih =>
    obtain ⟨k, d⟩ := p
    rw [slots_cons] at hr ⊢
    split at hr
    · cases hr
    · next f hd => rwa [h _ _ hd]
    · next v hd =>
      rw [h _ _ hd]
      dsimp only
      split at hr
      · exact hr
      · cases hrest : slots item n ps with
        | none =>
          rw [hrest] at hr
          cases hr
        | some r' => rwa [ih hrest, ← hrest]

end Slots

/-! ## More depth -/

section Depth

variable {depth depth' a b id : Nat} {d : Datum} {r r' : Except Fault (Value ω)}

theorem toValueWith_of_agree {table table' : Nat → Returning (Value ω)}
    (h : ∀ id r, table id = some r → table' id = some r) (hr : d.toValueWith table = some r) :
    d.toValueWith table' = some r := by
  cases d with
  | table id => exact h id r hr
  | _ => exact hr

/-- The outcome for a table is that of its entries, put together. -/
theorem tableValue_eq (view : TableView) (heap : Heap) (depth id : Nat) :
    (tableValue view heap (depth + 1) id : Returning (Value ω)) =
      match slots (Datum.toValueWith (tableValue view heap depth)) (view.border (heap.table id))
        (view.pairs (heap.table id)) with
      | none => none
      | some (.error f) => some (.error f)
      | some (.ok es) => some (.ok (assemble (view.border (heap.table id)) es)) := by
  rw [tableValue]
  rcases slots (Datum.toValueWith (tableValue view heap depth)) (view.border (heap.table id))
    (view.pairs (heap.table id)) with _ | _ | es <;> rfl

/-- An outcome for a table needs one for its entries, at one depth less. -/
theorem exists_slots_of_tableValue (h : tableValue view heap (depth + 1) id = some r) :
    ∃ r', slots (Datum.toValueWith (tableValue (ω := ω) view heap depth))
      (view.border (heap.table id)) (view.pairs (heap.table id)) = some r' := by
  rw [tableValue_eq] at h
  split at h
  · cases h
  · next f hslots => exact ⟨_, hslots⟩
  · next es hslots => exact ⟨_, hslots⟩

theorem exists_tableValue_of_slots {r : Except Fault (List (Slot × Value ω))}
    (h : slots (Datum.toValueWith (tableValue view heap depth)) (view.border (heap.table id))
      (view.pairs (heap.table id)) = some r) :
    ∃ r', tableValue (ω := ω) view heap (depth + 1) id = some r' := by
  rw [tableValue_eq, h]
  cases r with
  | error f => exact ⟨_, rfl⟩
  | ok es => exact ⟨_, rfl⟩

/-- An outcome at some depth stays when more depth is allowed. -/
theorem tableValue_succ (h : tableValue view heap depth id = some r) :
    tableValue view heap (depth + 1) id = some r := by
  induction depth generalizing id r with
  | zero => cases h
  | succ depth ih =>
    obtain ⟨r', hslots⟩ := exists_slots_of_tableValue h
    have hmore := slots_of_agree (fun d r => toValueWith_of_agree fun id r => ih) hslots
    rw [tableValue_eq, hslots] at h
    rw [tableValue_eq, hmore]
    exact h

theorem tableValue_of_le (hle : depth ≤ depth') (h : tableValue view heap depth id = some r) :
    tableValue view heap depth' id = some r := by
  induction hle with
  | refl => exact h
  | step _ ih => exact tableValue_succ ih

theorem toValue_of_le (hle : depth ≤ depth') (h : d.toValue view heap depth = some r) :
    d.toValue view heap depth' = some r :=
  toValueWith_of_agree (fun _ _ => tableValue_of_le hle) h

/-- Whatever the depths are, there is one outcome. -/
theorem toValue_unique (h : d.toValue view heap depth = some r)
    (h' : d.toValue view heap depth' = some r') : r = r' := by
  rcases Nat.le_total depth depth' with hle | hle
  · exact Option.some.inj ((toValue_of_le hle h).symm.trans h')
  · exact Option.some.inj (h.symm.trans (toValue_of_le hle h'))

end Depth

/-! ## Tables that are met -/

/-- Following table `a` leads to table `b`: all entries of `a` before one that holds `b` have
values. -/
def Meets (ω : Type) (view : TableView) (heap : Heap) (a b : Nat) : Prop :=
  ∃ depth before k after, ∃ es : List (Slot × Value ω),
    view.pairs (heap.table a) = before ++ (k, .table b) :: after ∧
      slots (Datum.toValueWith (tableValue view heap depth)) (view.border (heap.table a)) before =
        some (.ok es)

/-- The datum leads to a table that leads back to itself. -/
def Datum.Endless (ω : Type) (view : TableView) (heap : Heap) (d : Datum) : Prop :=
  ∃ a b, d = .table a ∧ ReflTransGen (Meets ω view heap) a b ∧ TransGen (Meets ω view heap) b b

section Meets

variable {depth a b id : Nat} {d : Datum} {r : Except Fault (Value ω)}

/-- An outcome for a table needs one for each table that it leads to, at one depth less. -/
theorem Meets.exists_tableValue (hmeets : Meets ω view heap a b)
    (ha : tableValue view heap (depth + 1) a = some r) :
    ∃ r', tableValue (ω := ω) view heap depth b = some r' := by
  obtain ⟨depth', before, k, after, es, hpairs, hbefore⟩ := hmeets
  obtain ⟨r', hslots⟩ := exists_slots_of_tableValue ha
  rw [hpairs] at hslots
  exact exists_item_of_slots (fun d r r' => toValue_unique) hslots hbefore

/-- Only what a table leads to can keep it from having an outcome. -/
theorem exists_tableValue_of_meets
    (h : ∀ b, Meets ω view heap a b → ∃ r, tableValue (ω := ω) view heap depth b = some r) :
    ∃ r, tableValue (ω := ω) view heap (depth + 1) a = some r := by
  let item : Datum → Returning (Value ω) := Datum.toValueWith (tableValue view heap depth)
  let n := view.border (heap.table a)
  -- The entries are gone through from the first to the last; `before` have values already.
  have hslots : ∀ rest before es, view.pairs (heap.table a) = before ++ rest →
      slots item n before = some (.ok es) → ∃ r, slots item n rest = some r := by
    intro rest
    induction rest with
    | nil => exact fun _ _ _ _ => ⟨_, rfl⟩
    | cons p rest ih =>
      intro before es hpairs hbefore
      obtain ⟨k, d⟩ := p
      have hitem : ∃ r, item d = some r := by
        cases d with
        | table b => exact h b ⟨depth, before, k, rest, es, hpairs, hbefore⟩
        | str bytes =>
          simp only [item, Datum.toValueWith]
          cases decodeText bytes with
          | ok s => exact ⟨_, rfl⟩
          | error f => exact ⟨_, rfl⟩
        | _ => exact ⟨_, rfl⟩
      obtain ⟨_ | v, hd⟩ := hitem
      · rw [slots_cons, hd]
        exact ⟨_, rfl⟩
      · cases hk : k.slot n with
        | error f =>
          rw [slots_cons, hd, hk]
          exact ⟨_, rfl⟩
        | ok slot =>
          have hone : slots item n [(k, d)] = some (.ok [(slot, v)]) :=
            slots_cons_eq_ok_iff.2 ⟨v, slot, [], hd, hk, rfl, rfl⟩
          obtain ⟨r, hrest⟩ := ih (before ++ [(k, d)]) _
            (hpairs.trans (List.append_cons _ _ _)) (slots_append hbefore hone)
          rw [slots_cons, hd, hk, hrest]
          cases r with
          | error f => exact ⟨_, rfl⟩
          | ok es => exact ⟨_, rfl⟩
  obtain ⟨r, hall⟩ := hslots _ [] [] rfl rfl
  exact exists_tableValue_of_slots hall

/-- What a table leads to has an outcome at a lesser depth. -/
theorem Meets.exists_lt (hmeets : Meets ω view heap a b)
    (ha : tableValue view heap depth a = some r) :
    ∃ depth' < depth, ∃ r', tableValue (ω := ω) view heap depth' b = some r' := by
  cases depth with
  | zero => cases ha
  | succ depth => exact ⟨depth, Nat.lt_succ_self depth, hmeets.exists_tableValue ha⟩

theorem exists_lt_of_transGen (h : TransGen (Meets ω view heap) a b)
    (ha : tableValue view heap depth a = some r) :
    ∃ depth' < depth, ∃ r', tableValue (ω := ω) view heap depth' b = some r' := by
  induction h with
  | single hmeets => exact hmeets.exists_lt ha
  | tail _ hmeets ih =>
    obtain ⟨depth', hlt, r', hr'⟩ := ih
    obtain ⟨depth'', hlt', hr''⟩ := hmeets.exists_lt hr'
    exact ⟨depth'', Nat.lt_trans hlt' hlt, hr''⟩

/-- A table that leads back to itself has no outcome at any depth. -/
theorem tableValue_eq_none_of_cycle (h : TransGen (Meets ω view heap) a a) (depth : Nat) :
    (tableValue view heap depth a : Returning (Value ω)) = none := by
  induction depth using Nat.strongRecOn with
  | ind depth ih =>
    cases hr : (tableValue view heap depth a : Returning (Value ω)) with
    | none => rfl
    | some r =>
      obtain ⟨depth', hlt, r', hr'⟩ := exists_lt_of_transGen h hr
      rw [ih depth' hlt] at hr'
      cases hr'

/-- A number without a table leads nowhere. -/
theorem Meets.lt_size (hview : view.Lawful) (h : Meets ω view heap a b) : a < heap.size := by
  obtain ⟨depth, before, k, after, es, hpairs, -⟩ := h
  refine Nat.lt_of_not_le fun hle => ?_
  have htable : heap.table a = {} := by
    rw [Heap.table, Array.getElem?_eq_none hle]
    rfl
  have hempty : (view.pairs (heap.table a)).Perm [] :=
    htable ▸ hview.pairs {} ⟨List.nodup_nil, by decide⟩
  rw [hempty.eq_nil] at hpairs
  exact absurd hpairs.symm (by simp)

/-- Tables that do not lead back to themselves have an outcome at a depth that leaves room for all
tables not on the way there. -/
theorem exists_tableValue_of_path (hview : view.Lawful) {path : List Nat} (hnodup : path.Nodup)
    (hpath : ∀ x ∈ path, x < heap.size ∧ TransGen (Meets ω view heap) x a)
    (hdepth : heap.size + 1 ≤ path.length + depth)
    (hacyclic : ∀ b, ReflTransGen (Meets ω view heap) a b → ¬ TransGen (Meets ω view heap) b b) :
    ∃ r, tableValue (ω := ω) view heap depth a = some r := by
  induction depth generalizing a path with
  | zero =>
    -- There are not that many tables.
    have hsubset : path ⊆ List.range heap.size := fun x hx => List.mem_range.2 (hpath x hx).1
    have hle := (hnodup.subperm hsubset).length_le
    rw [List.length_range] at hle
    omega
  | succ depth ih =>
    refine exists_tableValue_of_meets fun b hb => ?_
    have hnot : a ∉ path := fun hmem => hacyclic a .refl (hpath a hmem).2
    refine ih (List.nodup_cons.2 ⟨hnot, hnodup⟩) ?_ ?_ ?_
    · refine List.forall_mem_cons.2 ⟨⟨hb.lt_size hview, .single hb⟩, fun x hx => ?_⟩
      exact ⟨(hpath x hx).1, (hpath x hx).2.tail hb⟩
    · rw [List.length_cons]
      omega
    · exact fun c hc => hacyclic c (hc.head hb)

end Meets

/-! ## Results -/

section Result

variable {d : Datum} {r : Except Fault (Value ω)}

/-- A result that is not endless has an outcome, and so much depth is enough for it. -/
theorem exists_toValue_of_not_endless (hview : view.Lawful) (h : ¬ d.Endless ω view heap) :
    ∃ r, d.toValue (ω := ω) view heap (heap.size + 1) = some r := by
  cases d with
  | table a =>
    refine exists_tableValue_of_path hview List.nodup_nil ?_ ?_ fun b hreach hcycle =>
      h ⟨a, b, rfl, hreach, hcycle⟩
    · exact fun x hx => absurd hx List.not_mem_nil
    · exact Nat.le_add_left _ _
  | str bytes =>
    simp only [Datum.toValue, Datum.toValueWith]
    cases decodeText bytes with
    | ok s => exact ⟨_, rfl⟩
    | error f => exact ⟨_, rfl⟩
  | _ => exact ⟨_, rfl⟩

/-- An endless result has no outcome, whatever the depth. -/
theorem Datum.Endless.toValue_eq_none (h : d.Endless ω view heap) (depth : Nat) :
    (d.toValue view heap depth : Returning (Value ω)) = none := by
  obtain ⟨a, b, rfl, hreach, hcycle⟩ := h
  cases hr : (tableValue view heap depth a : Returning (Value ω)) with
  | none => exact hr
  | some r =>
    -- The table itself is one that leads back to itself, or it leads to one.
    rcases Relation.reflTransGen_iff_eq_or_transGen.1 hreach with rfl | hreach
    · rw [tableValue_eq_none_of_cycle hcycle] at hr
      cases hr
    · obtain ⟨depth', -, r', hr'⟩ := exists_lt_of_transGen hreach hr
      rw [tableValue_eq_none_of_cycle hcycle] at hr'
      cases hr'

/-- Turning a result into a value comes to an end exactly if the result is not endless. -/
theorem exists_toValue_iff (hview : view.Lawful) :
    (∃ depth r, d.toValue (ω := ω) view heap depth = some r) ↔ ¬ d.Endless ω view heap := by
  constructor
  · rintro ⟨depth, r, hr⟩ hendless
    rw [hendless.toValue_eq_none] at hr
    cases hr
  · exact fun h => ⟨_, exists_toValue_of_not_endless hview h⟩

/-- Table `a` holds a reference to table `b`. -/
def Holds (heap : Heap) (a b : Nat) : Prop := ∃ k, (k, .table b) ∈ (heap.table a).entries

theorem Meets.holds (hview : view.Lawful) {a b : Nat} (hsound : (heap.table a).Sound)
    (h : Meets ω view heap a b) : Holds heap a b := by
  obtain ⟨depth, before, k, after, es, hpairs, -⟩ := h
  refine ⟨k, (hview.pairs _ hsound).mem_iff.1 ?_⟩
  rw [hpairs]
  exact List.mem_append_right _ List.mem_cons_self

/-- Where no table is in itself, no result is endless. -/
theorem not_endless_of_acyclic (hview : view.Lawful) (hsound : ∀ id, (heap.table id).Sound)
    (h : ∀ id, ¬ TransGen (Holds heap) id id) (d : Datum) : ¬ d.Endless ω view heap := by
  rintro ⟨a, b, -, -, hcycle⟩
  exact h b (hcycle.lift id fun a b hmeets => hmeets.holds hview (hsound a))

/-! ## Faults -/

theorem Key.slot_ne_cycle (n : Nat) (k : Key) : k.slot n ≠ .error .cycle := by
  intro h
  have hname : ∀ f : Fault, k.name = .error f → f ≠ .cycle := by
    rintro _ hname rfl
    cases k with
    | str bytes =>
      simp only [Key.name, decodeText] at hname
      split at hname <;> cases hname
    | _ => cases hname
  unfold slot at h
  split at h
  · cases h
  · cases hk : k.name with
    | ok s =>
      rw [hk] at h
      cases h
    | error f =>
      rw [hk] at h
      cases h
      exact hname _ hk rfl

theorem slots_ne_cycle {item : Datum → Returning (Value ω)}
    (h : ∀ d, item d ≠ some (.error .cycle)) (n : Nat) (ps : List (Key × Datum)) :
    slots item n ps ≠ some (.error .cycle) := by
  induction ps with
  | nil => exact fun hslots => by cases hslots
  | cons p ps ih =>
    obtain ⟨k, d⟩ := p
    intro hslots
    rw [slots_cons] at hslots
    split at hslots
    · cases hslots
    · next f hd =>
      cases hslots
      exact h d hd
    · split at hslots
      · next f hk =>
        cases hslots
        exact k.slot_ne_cycle n hk
      · split at hslots
        · cases hslots
        · next f hps =>
          cases hslots
          exact ih hps
        · cases hslots

theorem toValueWith_ne_cycle {table : Nat → Returning (Value ω)}
    (h : ∀ id, table id ≠ some (.error .cycle)) (d : Datum) :
    d.toValueWith table ≠ some (.error .cycle) := by
  intro hd
  cases d with
  | table id => exact h id hd
  | str bytes =>
    simp only [Datum.toValueWith, decodeText] at hd
    cases hbytes : bytes.toString? with
    | none =>
      rw [hbytes] at hd
      cases hd
    | some s =>
      rw [hbytes] at hd
      cases hd
  | _ => cases hd

/-- A search for a value that comes to an end does not find a table in itself. -/
theorem tableValue_ne_cycle (depth id : Nat) :
    (tableValue view heap depth id : Returning (Value ω)) ≠ some (.error .cycle) := by
  induction depth generalizing id with
  | zero => exact fun h => by cases h
  | succ depth ih =>
    intro h
    rw [tableValue_eq] at h
    split at h
    · cases h
    · next f hslots =>
      cases h
      exact slots_ne_cycle (toValueWith_ne_cycle ih) _ _ hslots
    · cases h

theorem result_eq_cycle_iff (hview : view.Lawful) :
    (result view heap d : Except Fault (Value ω)) = .error .cycle ↔ d.Endless ω view heap := by
  constructor
  · intro h
    refine Classical.byContradiction fun hnot => ?_
    obtain ⟨r, hr⟩ := exists_toValue_of_not_endless hview hnot
    rw [result, hr] at h
    subst h
    exact toValueWith_ne_cycle (tableValue_ne_cycle _) d hr
  · intro h
    rw [result, h.toValue_eq_none]

theorem toValue_of_result {v : Value ω} (h : result view heap d = .ok v) :
    d.toValue view heap (heap.size + 1) = some (.ok v) := by
  rw [result] at h
  split at h
  · next r hr => rw [hr, h]
  · cases h

/-- The value of a result is what any depth gives that is enough. -/
theorem result_eq_ok_iff (hview : view.Lawful) {v : Value ω} :
    result view heap d = .ok v ↔ ∃ depth, d.toValue view heap depth = some (.ok v) := by
  constructor
  · exact fun h => ⟨heap.size + 1, toValue_of_result h⟩
  · rintro ⟨depth, hv⟩
    obtain ⟨r, hr⟩ := exists_toValue_of_not_endless hview ((exists_toValue_iff hview).1 ⟨_, _, hv⟩)
    rw [result, hr]
    exact toValue_unique hr hv

end Result

end TextTemplate.Embedded
