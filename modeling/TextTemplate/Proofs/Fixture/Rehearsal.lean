import TextTemplate.Fixture.Rehearsal
import TextTemplate.Proofs.Entries
import TextTemplate.Proofs.Script.Globals
set_option autoImplicit false

/-!
# Rehearsal: the names of a rehearsed session

A rehearsed session keeps its names in a map in key order, whatever it is asked, and it refuses the
registrations and removals that it was told to refuse, and no others.
-/

namespace TextTemplate.Fixture

open Script (Error Interpreter Session)

variable {ω : Type}

namespace Rehearsal

/-- The names of a state are in key order. -/
def Valid (r : Rehearsal ω) : Prop := Entries.Ordered r.globals

theorem valid_eval (evaluator : Evaluator ω) (source : String) {r : Rehearsal ω} (h : r.Valid) :
    Valid (eval (scripted evaluator) source r).result.2 := by
  unfold eval
  split
  · exact h
  · exact Entries.ordered_insert h
  · exact h

end Rehearsal

theorem rehearsed_unset_of_refused (evaluator : Evaluator ω) {refusals : Refusals} {name : String}
    (h : refusals.unset.contains name = true) (r : Rehearsal ω) :
    (rehearsed evaluator refusals).unset name r = pure (.error (.binding name "refused"), r) :=
  if_pos h

theorem rehearsed_unset_of_accepted (evaluator : Evaluator ω) {refusals : Refusals} {name : String}
    (h : refusals.unset.contains name = false) (r : Rehearsal ω) :
    (rehearsed evaluator refusals).unset name r =
      pure (.ok (), { r with globals := Entries.erase name r.globals }) :=
  if_neg (Bool.not_eq_true _ ▸ h)

theorem rehearsed_set_of_refused (evaluator : Evaluator ω) {refusals : Refusals} {name : String}
    (h : refusals.set.contains name = true) (v : Value ω) (r : Rehearsal ω) :
    (rehearsed evaluator refusals).set name v r = pure (.error (.binding name "refused"), r) :=
  if_pos h

theorem rehearsed_set_of_accepted (evaluator : Evaluator ω) {refusals : Refusals} {name : String}
    (h : refusals.set.contains name = false) (v : Value ω) (r : Rehearsal ω) :
    (rehearsed evaluator refusals).set name v r =
      pure (.ok (), { r with globals := Entries.insert name v r.globals }) :=
  if_neg (Bool.not_eq_true _ ▸ h)

/-- A rehearsed session refuses the removals that it was told to refuse. -/
theorem rehearsed_refuses (evaluator : Evaluator ω) (refusals : Refusals) :
    (rehearsed evaluator refusals).Refuses refusals.unset.contains := by
  intro name r
  cases h : refusals.unset.contains name with
  | true => simp [rehearsed_unset_of_refused evaluator h]
  | false => simp [rehearsed_unset_of_accepted evaluator h]

/-- The names of a rehearsed session. -/
def rehearsedView (evaluator : Evaluator ω) (refusals : Refusals) :
    (rehearsed evaluator refusals).GlobalsView where
  Valid := Rehearsal.Valid
  globals r name := Entries.find? name r.globals
  valid_set {r} name v h := by
    show Rehearsal.Valid (Rehearsal.guarded refusals.set name _ r).result.2
    unfold Rehearsal.guarded
    split
    · exact h
    · exact Entries.ordered_insert h
  valid_eval source h := Rehearsal.valid_eval evaluator source h
  valid_unset {r} name h := by
    cases hrefused : refusals.unset.contains name with
    | true =>
      rw [rehearsed_unset_of_refused evaluator hrefused]
      exact h
    | false =>
      rw [rehearsed_unset_of_accepted evaluator hrefused]
      exact Entries.ordered_erase h
  unset_accepted {r name} h haccepted n := by
    cases hrefused : refusals.unset.contains name with
    | true => simp [rehearsed_unset_of_refused evaluator hrefused] at haccepted
    | false =>
      rw [rehearsed_unset_of_accepted evaluator hrefused]
      exact Entries.find?_erase h name n
  unset_refused {r name e} h hanswer := by
    cases hrefused : refusals.unset.contains name with
    | true =>
      rw [rehearsed_unset_of_refused evaluator hrefused]
      rfl
    | false => simp [rehearsed_unset_of_accepted evaluator hrefused] at hanswer

/-- A rehearsed session registers what it is not told to refuse. -/
def rehearsedNames (evaluator : Evaluator ω) (refusals : Refusals) :
    (rehearsed evaluator refusals).NamesView where
  toGlobalsView := rehearsedView evaluator refusals
  set_accepted {r name v} _ haccepted n := by
    cases hrefused : refusals.set.contains name with
    | true => simp [rehearsed_set_of_refused evaluator hrefused] at haccepted
    | false =>
      rw [rehearsed_set_of_accepted evaluator hrefused]
      exact Entries.find?_insert name n v r.globals
  set_refused {r name v e} _ hanswer := by
    cases hrefused : refusals.set.contains name with
    | true =>
      rw [rehearsed_set_of_refused evaluator hrefused]
      rfl
    | false => simp [rehearsed_set_of_accepted evaluator hrefused] at hanswer

/-- A host without objects. -/
def noObjects : Host Empty := ⟨Empty.elim, Empty.elim, Empty.elim, Empty.elim⟩

/-- A rehearsed session that refuses to remove `names`, in which nothing is registered yet. -/
def refusingSession (names : List String) : Session Empty (Rehearsal Empty) :=
  ⟨rehearsed (evalWords noObjects) { unset := names }, ⟨[], 0⟩⟩

end TextTemplate.Fixture
