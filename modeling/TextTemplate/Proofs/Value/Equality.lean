import Mathlib
import TextTemplate.Fixture.Object
import TextTemplate.Proofs.Value.Part
set_option autoImplicit false

/-!
# Equality: when two values are equal

Two values are compared part by part.  `Matches` says what the comparison asks of two values without
looking at their parts, and two values are equal exactly when they match at every position
(`beq_iff_matches_at`).  So equality is symmetric and transitive, since matching is, and a value
differs from itself only because of a float in it that is no number.
-/

namespace TextTemplate.Value

variable {ω : Type}

/-! ## Equal numbers -/

/-- Equal as numbers: both floats are numbers, and they are the same one or the two zeros. -/
structure SameNumber (x y : Float) : Prop where
  left : x.isNaN = false
  right : y.isNaN = false
  same : x = y ∨ x = 0 ∧ y = -0 ∨ x = -0 ∧ y = 0

theorem beq_float_iff {x y : Float} : (x == y) = true ↔ SameNumber x y := by
  -- What is known of the comparison of floats comes with the whole library, not with a part of it.
  have hnumber (z : Float) : z.isNaN = false ↔ z ≠ Float.nan := by
    rw [Float.isNaN_eq_decide_eq_nan, decide_eq_false_iff_not]
  rw [Float.beq_iff_ne_nan_and_eq, ← hnumber, ← hnumber]
  constructor
  · rintro ⟨left, right, same⟩
    exact ⟨left, right, same⟩
  · rintro ⟨left, right, same⟩
    exact ⟨left, right, same⟩

namespace SameNumber

variable {x y z : Float}

theorem symm (h : SameNumber x y) : SameNumber y x := by
  refine ⟨h.right, h.left, ?_⟩
  rcases h.same with heq | ⟨hx, hy⟩ | ⟨hx, hy⟩
  · exact .inl heq.symm
  · exact .inr (.inr ⟨hy, hx⟩)
  · exact .inr (.inl ⟨hy, hx⟩)

theorem trans (h : SameNumber x y) (h' : SameNumber y z) : SameNumber x z := by
  refine ⟨h.left, h'.right, ?_⟩
  have hzeros : (0 : Float) ≠ -0 := by decide
  have hsame := h.same
  have hsame' := h'.same
  grind

end SameNumber

/-! ## Matching -/

section

variable [BEq ω] {u v w : Value ω}

/-- The values are of one kind, and equal as far as can be seen without looking at their parts: the
same scalar, lists of the same size, maps with the same keys, or the same object. -/
inductive Matches : Value ω → Value ω → Prop where
  | null : Matches null null
  | bool (b : Bool) : Matches (bool b) (bool b)
  | int (i : Int64) : Matches (int i) (int i)
  | float {x y : Float} (same : SameNumber x y) : Matches (float x) (float y)
  | str (s : String) : Matches (str s) (str s)
  | list {items items' : List (Value ω)} (size : items.length = items'.length) :
      Matches (list items) (list items')
  | map {es es' : List (String × Value ω)} (keys : Entries.keys es = Entries.keys es') :
      Matches (map es) (map es')
  | object {o o' : ω} (same : (o == o') = true) : Matches (object o) (object o')

namespace Matches

theorem kind_eq (h : Matches v w) : v.kind = w.kind := by
  cases h <;> rfl

/-- Matching values have parts in the same places. -/
theorem part?_eq_none_iff (h : Matches v w) (i : Nat) : v.part? i = none ↔ w.part? i = none := by
  cases h with
  | list size => rw [part?, part?, List.getElem?_eq_none_iff, List.getElem?_eq_none_iff, size]
  | @map es es' keys =>
    have size : es.length = es'.length := by
      simpa only [Entries.keys, List.length_map] using congrArg List.length keys
    rw [part?, part?, Option.map_eq_none_iff, Option.map_eq_none_iff, List.getElem?_eq_none_iff,
      List.getElem?_eq_none_iff, size]
  | _ => exact Iff.rfl

theorem symm [PartialEquivBEq ω] (h : Matches v w) : Matches w v := by
  cases h with
  | float same => exact .float same.symm
  | list size => exact .list size.symm
  | map keys => exact .map keys.symm
  | object same => exact .object (BEq.symm same)
  | null => exact .null
  | bool b => exact .bool b
  | int i => exact .int i
  | str s => exact .str s

theorem trans [PartialEquivBEq ω] (h : Matches u v) (h' : Matches v w) : Matches u w := by
  cases h with
  | float same => cases h' with | float same' => exact .float (same.trans same')
  | list size => cases h' with | list size' => exact .list (size.trans size')
  | map keys => cases h' with | map keys' => exact .map (keys.trans keys')
  | object same => cases h' with | object same' => exact .object (BEq.trans same same')
  | null => exact h'
  | bool b => exact h'
  | int i => exact h'
  | str s => exact h'

/-- Only a float can fail to match itself. -/
theorem self_iff [ReflBEq ω] : Matches v v ↔ ∀ x, v = .float x → x.isNaN = false := by
  constructor
  · intro h x hx
    subst hx
    cases h with | float same => exact same.left
  · intro h
    cases v with
    | null => exact .null
    | bool b => exact .bool b
    | int i => exact .int i
    | float x => exact .float ⟨h x rfl, h x rfl, .inl rfl⟩
    | str s => exact .str s
    | list items => exact .list rfl
    | map es => exact .map rfl
    | object o => exact .object BEq.rfl

end Matches

/-! ## Comparing the parts -/

/-- Lists of one length are equal if their items are, one by one. -/
theorem beqItems_iff {as bs : List (Value ω)} :
    beqItems as bs = true ↔ as.length = bs.length ∧
      ∀ (i : Nat) (a b : Value ω), as[i]? = some a → bs[i]? = some b → (a == b) = true := by
  induction as generalizing bs with
  | nil => cases bs <;> simp [beqItems]
  | cons a as ih =>
    cases bs with
    | nil => simp [beqItems]
    | cons b bs =>
      rw [beqItems, Bool.and_eq_true, ih]
      constructor
      · rintro ⟨hhead, hlength, htail⟩
        refine ⟨congrArg (· + 1) hlength, fun i a' b' ha hb => ?_⟩
        cases i with
        | zero =>
          obtain rfl := Option.some.inj ha
          obtain rfl := Option.some.inj hb
          exact hhead
        | succ i => exact htail i a' b' ha hb
      · rintro ⟨hlength, hitems⟩
        exact ⟨hitems 0 a b rfl rfl, Nat.succ.inj hlength, fun i => hitems (i + 1)⟩

/-- Entries are equal if their keys are and their values are, one by one. -/
theorem beqEntries_iff {es es' : List (String × Value ω)} :
    beqEntries es es' = true ↔ Entries.keys es = Entries.keys es' ∧
      beqItems (es.map Prod.snd) (es'.map Prod.snd) = true := by
  induction es generalizing es' with
  | nil => cases es' <;> simp [beqEntries, beqItems, Entries.keys]
  | cons e es ih =>
    cases es' with
    | nil => simp [beqEntries, Entries.keys]
    | cons e' es' =>
      rw [beqEntries, List.map_cons, List.map_cons, beqItems, Bool.and_eq_true, Bool.and_eq_true,
        Bool.and_eq_true, ih, beq_iff_eq]
      simp only [Entries.keys, List.map_cons, List.cons.injEq]
      constructor
      · rintro ⟨⟨hkey, hvalue⟩, hkeys, hvalues⟩
        exact ⟨⟨hkey, hkeys⟩, hvalue, hvalues⟩
      · rintro ⟨⟨hkey, hkeys⟩, hvalue, hvalues⟩
        exact ⟨⟨hkey, hvalue⟩, hkeys, hvalues⟩

/-- A value without parts has none that differ. -/
theorem parts_beq_of_none (h : ∀ i, v.part? i = none) :
    ∀ i a b, v.part? i = some a → w.part? i = some b → (a == b) = true := by
  intro i a b hv
  rw [h i] at hv
  cases hv

/-- Values are equal if they match and their parts are equal, one by one. -/
theorem beq_iff_parts (v w : Value ω) :
    (v == w) = true ↔ Matches v w ∧
      ∀ i a b, v.part? i = some a → w.part? i = some b → (a == b) = true := by
  change beq v w = true ↔ _
  fun_cases beq v w with
  | case1 => exact ⟨fun _ => ⟨.null, parts_beq_of_none fun _ => rfl⟩, fun _ => rfl⟩
  | case2 a b =>
    constructor
    · intro h
      obtain rfl := beq_iff_eq.1 h
      exact ⟨.bool a, parts_beq_of_none fun _ => rfl⟩
    · rintro ⟨⟨⟩, -⟩
      exact beq_self_eq_true a
  | case3 a b =>
    constructor
    · intro h
      obtain rfl := beq_iff_eq.1 h
      exact ⟨.int a, parts_beq_of_none fun _ => rfl⟩
    · rintro ⟨⟨⟩, -⟩
      exact beq_self_eq_true a
  | case4 a b =>
    constructor
    · intro h
      exact ⟨.float (beq_float_iff.1 h), parts_beq_of_none fun _ => rfl⟩
    · rintro ⟨hmatches, -⟩
      cases hmatches with
      | float same => exact beq_float_iff.2 same
  | case5 a b =>
    constructor
    · intro h
      obtain rfl := beq_iff_eq.1 h
      exact ⟨.str a, parts_beq_of_none fun _ => rfl⟩
    · rintro ⟨⟨⟩, -⟩
      exact beq_self_eq_true a
  | case6 as bs =>
    rw [beqItems_iff]
    constructor
    · rintro ⟨size, parts⟩
      exact ⟨.list size, parts⟩
    · rintro ⟨hmatches, parts⟩
      cases hmatches with
      | list size => exact ⟨size, parts⟩
  | case7 es es' =>
    rw [beqEntries_iff, beqItems_iff]
    simp only [List.getElem?_map]
    constructor
    · rintro ⟨keys, _, parts⟩
      exact ⟨.map keys, parts⟩
    · rintro ⟨hmatches, parts⟩
      cases hmatches with
      | map keys =>
        refine ⟨keys, ?_, parts⟩
        simpa only [Entries.keys, List.length_map] using congrArg List.length keys
  | case8 o o' =>
    constructor
    · intro h
      exact ⟨.object h, parts_beq_of_none fun _ => rfl⟩
    · rintro ⟨hmatches, -⟩
      cases hmatches with
      | object same => exact same
  | case9 v w hnull hbool hint hfloat hstr hlist hmap hobject =>
    refine ⟨fun h => absurd h Bool.false_ne_true, fun h => ?_⟩
    cases h.1 with
    | null => exact (hnull rfl rfl).elim
    | bool b => exact (hbool b b rfl rfl).elim
    | int i => exact (hint i i rfl rfl).elim
    | float same => exact (hfloat _ _ rfl rfl).elim
    | str s => exact (hstr s s rfl rfl).elim
    | list size => exact (hlist _ _ rfl rfl).elim
    | map keys => exact (hmap _ _ rfl rfl).elim
    | object same => exact (hobject _ _ rfl rfl).elim

/-! ## Comparing position by position -/

/-- Equal values match at every position. -/
theorem matches_at_of_beq (h : (v == w) = true) (position : List Nat) :
    Option.Rel Matches (v.at? position) (w.at? position) := by
  induction position generalizing v w with
  | nil => exact .some ((beq_iff_parts v w).1 h).1
  | cons i position ih =>
    obtain ⟨hmatches, hparts⟩ := (beq_iff_parts v w).1 h
    have hnone := hmatches.part?_eq_none_iff i
    rw [at?_cons, at?_cons]
    cases hv : v.part? i with
    | none =>
      rw [hnone.1 hv]
      exact .none
    | some a =>
      cases hw : w.part? i with
      | none => rw [hnone.2 hw] at hv; cases hv
      | some b => exact ih (hparts i a b hv hw)

/-- Values that match at every position are equal. -/
theorem beq_of_matches_at (h : ∀ position, Option.Rel Matches (v.at? position) (w.at? position)) :
    (v == w) = true := by
  induction v using byParts generalizing w with
  | inherit v ih =>
    rw [beq_iff_parts]
    refine ⟨?_, fun i a b hv hw => ih i a hv fun position => ?_⟩
    · cases h [] with
      | some hmatches => exact hmatches
    · have hpart := h (i :: position)
      rwa [at?_cons, at?_cons, hv, hw] at hpart

theorem beq_iff_matches_at (v w : Value ω) :
    (v == w) = true ↔ ∀ position, Option.Rel Matches (v.at? position) (w.at? position) :=
  ⟨matches_at_of_beq, beq_of_matches_at⟩

end

/-! ## Main statement -/

section

variable {R : Value ω → Value ω → Prop} {x y z : Option (Value ω)}

theorem rel_symm (hR : ∀ v w, R v w → R w v) (h : Option.Rel R x y) : Option.Rel R y x := by
  cases h with
  | none => exact .none
  | some h => exact .some (hR _ _ h)

theorem rel_trans (hR : ∀ u v w, R u v → R v w → R u w) (h : Option.Rel R x y)
    (h' : Option.Rel R y z) : Option.Rel R x z := by
  cases h with
  | none => exact h'
  | some h => cases h' with | some h' => exact .some (hR _ _ _ h h')

end

/-- Equality of values is symmetric and transitive, and a value equals itself unless a float in it,
at any depth of lists and maps, is no number.  Values of different kinds are not equal, and two
values are equal exactly when they have the same positions and match at each of them: lists in their
sizes, maps in their keys, floats as numbers, other scalars as they are, and objects in being the
same. -/
theorem beq_partialEquivalence [BEq ω] [EquivBEq ω] :
    (∀ v w : Value ω, (v == w) = (w == v)) ∧
    (∀ u v w : Value ω, (u == v) = true → (v == w) = true → (u == w) = true) ∧
    (∀ v : Value ω, (v == v) = true ↔
      ∀ position x, v.at? position = some (.float x) → x.isNaN = false) ∧
    (∀ v w : Value ω, v.kind ≠ w.kind → (v == w) = false) ∧
    ∀ v w : Value ω, (v == w) = true ↔
      ∀ position, Option.Rel Matches (v.at? position) (w.at? position) := by
  have hsymm : ∀ v w : Value ω, (v == w) = true → (w == v) = true := by
    intro v w h
    apply beq_of_matches_at
    intro position
    exact rel_symm (fun _ _ => Matches.symm) (matches_at_of_beq h position)
  refine ⟨?_, ?_, ?_, ?_, beq_iff_matches_at⟩
  · intro v w
    rw [Bool.eq_iff_iff]
    exact ⟨hsymm v w, hsymm w v⟩
  · intro u v w h h'
    apply beq_of_matches_at
    intro position
    have hposition := matches_at_of_beq h position
    have hposition' := matches_at_of_beq h' position
    exact rel_trans (fun _ _ _ => Matches.trans) hposition hposition'
  · intro v
    constructor
    · intro h position x hx
      have hposition := matches_at_of_beq h position
      rw [hx] at hposition
      cases hposition with | some hself => exact Matches.self_iff.1 hself x rfl
    · intro h
      apply beq_of_matches_at
      intro position
      cases hv : v.at? position with
      | none => exact .none
      | some u =>
        apply Option.Rel.some
        rw [Matches.self_iff]
        intro x hx
        exact h position x (hx ▸ hv)
  · intro v w hkind
    rw [Bool.eq_false_iff]
    intro h
    exact hkind ((beq_iff_parts v w).1 h).1.kind_eq

instance : EquivBEq Fixture.Object where
  rfl := by
    rintro ⟨serial, copies, body⟩
    exact Bool.and_eq_true_iff.2 ⟨BEq.rfl, BEq.rfl⟩
  symm := by
    rintro ⟨serial, copies, body⟩ ⟨serial', copies', body'⟩ h
    obtain ⟨hserial, hcopies⟩ := Bool.and_eq_true_iff.1 h
    exact Bool.and_eq_true_iff.2 ⟨BEq.symm hserial, BEq.symm hcopies⟩
  trans := by
    rintro ⟨serial, copies, body⟩ ⟨serial', copies', body'⟩ ⟨serial'', copies'', body''⟩ h h'
    obtain ⟨hserial, hcopies⟩ := Bool.and_eq_true_iff.1 h
    obtain ⟨hserial', hcopies'⟩ := Bool.and_eq_true_iff.1 h'
    exact Bool.and_eq_true_iff.2 ⟨BEq.trans hserial hserial', BEq.trans hcopies hcopies'⟩

/-- The two zeros are equal beside the same object, so through the one list the other equals itself.
A list with a float that is no number does not, and no integer equals a float. -/
theorem beq_partialEquivalence_of_zeros :
    let switch : Value Fixture.Object := .object (.mk 0 0 (.switch "porch" true))
    let zeros : Value Fixture.Object := .list [.float 0, switch]
    let zeros' : Value Fixture.Object := .list [.float (-0), switch]
    let missing : Value Fixture.Object := .map [("x", .list [.float (0 / 0)])]
    (zeros == zeros') = true ∧ (zeros' == zeros) = true ∧ (zeros == zeros) = true ∧
      missing.at? [0, 0] = some (.float (0 / 0)) ∧ (missing == missing) = false ∧
      (Value.int 1 : Value Fixture.Object).kind ≠ (Value.float 1 : Value Fixture.Object).kind ∧
      ((Value.int 1 : Value Fixture.Object) == .float 1) = false := by
  intro switch zeros zeros' missing
  obtain ⟨hsymm, htrans, hself, hkind, -⟩ := beq_partialEquivalence (ω := Fixture.Object)
  have hzeros : (zeros == zeros') = true := by decide
  have hzeros' : (zeros' == zeros) = true := (hsymm zeros zeros').symm.trans hzeros
  have hkinds : (Value.int 1 : Value Fixture.Object).kind ≠
      (Value.float 1 : Value Fixture.Object).kind := by decide
  refine ⟨hzeros, hzeros', htrans zeros zeros' zeros hzeros hzeros', rfl, ?_, hkinds,
    hkind _ _ hkinds⟩
  rw [Bool.eq_false_iff]
  intro h
  exact absurd ((hself missing).1 h [0, 0] (0 / 0) rfl) (by decide)

end TextTemplate.Value
