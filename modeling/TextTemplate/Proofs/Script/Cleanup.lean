import TextTemplate.Formatter
import TextTemplate.Proofs.Fixture.Rehearsal
import TextTemplate.Proofs.Script.Bracketing
import TextTemplate.Proofs.Script.Globals
set_option autoImplicit false

/-!
# Cleanup: which names a script leaves behind

The bindings are removed after a script in name order, and the first refused removal is the last one
that is made.  So the names that are asked to be removed are those up to the first refused one, and
all bound names are among them just if none but the last is refused.  Every other name stays as the
script left it.
-/

namespace TextTemplate.Script

open Fixture (noObjects refusingSession rehearsedView rehearsed_refuses)

variable {ω σ τ : Type}

/-! ## Names up to a refused one -/

/-- The names up to the first refused one, that one included. -/
def untilRefused (refused : String → Bool) : List String → List String
  | [] => []
  | name :: names => if refused name then [name] else name :: untilRefused refused names

section

variable {refused : String → Bool} {names : List String}

theorem mem_untilRefused_iff (hsorted : names.Pairwise (· < ·)) {n : String} :
    n ∈ untilRefused refused names ↔
      n ∈ names ∧ ∀ earlier ∈ names, earlier < n → refused earlier = false := by
  induction names with
  | nil => simp [untilRefused]
  | cons name names ih =>
    obtain ⟨hlt, htail⟩ := List.pairwise_cons.1 hsorted
    have hfirst : ∀ earlier ∈ name :: names, ¬ earlier < name := by
      intro earlier hmem hless
      rcases List.mem_cons.1 hmem with rfl | hmem
      · exact KeyOrder.irrefl _ hless
      · exact KeyOrder.irrefl _ (KeyOrder.trans hless (hlt earlier hmem))
    rw [untilRefused]
    split
    · next hrefused =>
      constructor
      · intro hn
        obtain rfl : n = name := List.mem_singleton.1 hn
        exact ⟨List.mem_cons_self, fun earlier hmem hless => absurd hless (hfirst earlier hmem)⟩
      · rintro ⟨hn, hearlier⟩
        rcases List.mem_cons.1 hn with rfl | hn
        · exact List.mem_singleton_self _
        · have haccepted := hearlier name List.mem_cons_self (hlt n hn)
          simp [hrefused] at haccepted
    · next haccepted =>
      rw [List.mem_cons, ih htail]
      constructor
      · rintro (rfl | ⟨hn, hearlier⟩)
        · exact ⟨List.mem_cons_self, fun earlier hmem hless => absurd hless (hfirst earlier hmem)⟩
        · refine ⟨List.mem_cons_of_mem _ hn, fun earlier hmem hless => ?_⟩
          rcases List.mem_cons.1 hmem with rfl | hmem
          · exact Bool.not_eq_true _ ▸ haccepted
          · exact hearlier earlier hmem hless
      · rintro ⟨hn, hearlier⟩
        rcases List.mem_cons.1 hn with rfl | hn
        · exact .inl rfl
        · exact .inr ⟨hn, fun earlier hmem => hearlier earlier (List.mem_cons_of_mem _ hmem)⟩

theorem untilRefused_eq_self_iff :
    untilRefused refused names = names ↔ ∀ name ∈ names.dropLast, refused name = false := by
  induction names with
  | nil => simp [untilRefused]
  | cons name names ih =>
    cases names with
    | nil => simp [untilRefused]
    | cons next names =>
      rw [untilRefused, List.dropLast_cons_cons, List.forall_mem_cons, ← ih]
      cases refused name <;> simp

end

/-! ## Removing the bindings -/

/-- The removals are made up to the first refused one, and remove the others. -/
theorem Series.removing {u t : Session ω σ} {i : Interpreter ω σ} (view : i.GlobalsView)
    {refused : String → Bool} {names : List String} {unsets : List (Exchange ω)}
    {released : Except Error Unit} (h : Series (names.map .unset) unsets released)
    (htalk : u.Talk unsets t) (hi : u.interpreter = i) (hvalid : view.Valid u.state)
    (hrefuses : i.Refuses refused) :
    unsets.filterMap Exchange.removal? = untilRefused refused names ∧
      ∀ n, view.globals t.state n =
        if n ∈ untilRefused refused names ∧ refused n = false then none
        else view.globals u.state n := by
  generalize hplanned : names.map (Call.unset : String → Call ω) = planned at h
  induction h generalizing names u with
  | done =>
    obtain rfl : names = [] := List.map_eq_nil_iff.1 hplanned
    cases htalk
    exact ⟨rfl, by simp [untilRefused]⟩
  | @accepted x planned log released answer tail ih =>
    obtain ⟨name, names, rfl, hname, hnames⟩ := List.map_eq_cons_iff.1 hplanned
    obtain _ | ⟨head, rest⟩ := htalk
    obtain ⟨hanswer, hglobals⟩ := head.globals_eq view hi hvalid hrefuses hname.symm
    have haccepted : refused name = false := hanswer.1 answer
    obtain ⟨hremovals, hafter⟩ :=
      ih rest (head.interpreter_eq.trans hi) (head.valid view hi hvalid) hnames
    have huntil : untilRefused refused (name :: names) = name :: untilRefused refused names := by
      rw [untilRefused, haccepted]
      rfl
    rw [huntil]
    refine ⟨?_, fun n => ?_⟩
    · rw [List.filterMap_cons, Exchange.removal?, ← hname, hremovals]
      rfl
    · rw [hafter n, hglobals n]
      by_cases hn : n = name <;> simp [hn, haccepted]
  | @refused x planned e answer =>
    obtain ⟨name, names, rfl, hname, -⟩ := List.map_eq_cons_iff.1 hplanned
    obtain _ | ⟨head, ⟨⟩⟩ := htalk
    obtain ⟨hanswer, hglobals⟩ := head.globals_eq view hi hvalid hrefuses hname.symm
    have hrefused : refused name = true := by
      rw [← Bool.not_eq_false, ← hanswer, answer]
      simp
    have huntil : untilRefused refused (name :: names) = [name] := by
      rw [untilRefused, hrefused]
      rfl
    rw [huntil]
    refine ⟨?_, fun n => ?_⟩
    · rw [List.filterMap_cons, Exchange.removal?, ← hname]
      rfl
    · rw [hglobals n]
      by_cases hn : n = name <;> simp [hn, hrefused]

/-- After a script the bound names are asked to be removed up to the first refused one: all of them
just if none but the last in name order is refused.  A bound name that the session does not refuse
to remove is gone just if no bound name before it is refused, or the script itself left none. -/
theorem formatScript_removes (f : Formatter ω τ) (host : Host ω) (source : String)
    (bindings : Bindings ω) (s : Session ω σ) (view : s.interpreter.GlobalsView)
    (refused : String → Bool) (hvalid : view.Valid s.state)
    (hrefuses : s.interpreter.Refuses refused) :
    ∃ asked removing result u t,
      f.formatScript host source bindings s = ⟨(asked ++ removing).flatMap Exchange.events,
        resultText host f.config.nullString result, t⟩ ∧
      Bracketed bindings source (asked ++ removing) result ∧
      s.Talk asked u ∧ u.Talk removing t ∧
      asked.filterMap Exchange.removal? = [] ∧
      removing.filterMap Exchange.removal? = untilRefused refused bindings.names ∧
      (removing.filterMap Exchange.removal? = bindings.names ↔
        ∀ name ∈ bindings.names.dropLast, refused name = false) ∧
      ∀ name ∈ bindings.names, refused name = false →
        (view.globals t.state name = none ↔
          (∀ earlier ∈ bindings.names, earlier < name → refused earlier = false) ∨
            view.globals u.state name = none) := by
  obtain ⟨log, result, t, hrender, htalk, hbracketed⟩ :=
    s.exists_renderScript host f.config.nullString bindings source
  obtain ⟨asked, removing, released, rfl, hasked, hseries⟩ := hbracketed.exists_removing
  obtain ⟨u, htalk, htalk'⟩ := Session.talk_append_iff.1 htalk
  obtain ⟨hremovals, hafter⟩ := hseries.removing view htalk' htalk.interpreter_eq
    (htalk.valid view rfl hvalid) hrefuses
  refine ⟨asked, removing, result, u, t, hrender, hbracketed, htalk, htalk', hasked, hremovals, ?_,
    fun name hname haccepted => ?_⟩
  · rw [hremovals]
    exact untilRefused_eq_self_iff
  · have hordered : bindings.names.Pairwise (· < ·) := bindings.ordered
    have hreached : name ∈ untilRefused refused bindings.names ↔
        ∀ earlier ∈ bindings.names, earlier < name → refused earlier = false := by
      rw [mem_untilRefused_iff hordered]
      exact and_iff_right hname
    rw [hafter name, ← hreached]
    by_cases h : name ∈ untilRefused refused bindings.names <;> simp [h, haccepted]

/-- If only the last name is refused, both are asked to be removed and the first one is gone. -/
theorem formatScript_removes_up_to_last :
    let rendered := (Formatter.default noObjects : Formatter Empty Unit).formatScript noObjects
      "nil" (Bindings.ofList [("a", .int 1), ("b", .int 2)]) (refusingSession ["b"])
    ∃ log : List (Exchange Empty), rendered.events = log.flatMap Exchange.events ∧
      log.filterMap Exchange.removal? = ["a", "b"] ∧
      Entries.find? "a" rendered.result.2.state.globals = none := by
  intro rendered
  obtain ⟨asked, removing, result, u, t, hrendered, -, -, -, hasked, -, hall, hgone⟩ :=
    formatScript_removes (Formatter.default noObjects : Formatter Empty Unit) noObjects "nil"
      (Bindings.ofList [("a", .int 1), ("b", .int 2)]) (refusingSession ["b"]) (rehearsedView _ _)
      ["b"].contains Entries.ordered_nil (rehearsed_refuses _ _)
  refine ⟨asked ++ removing, congrArg Logged.events hrendered, ?_, ?_⟩
  · rw [List.filterMap_append, hasked, hall.2 (by decide)]
    rfl
  · have ht : rendered.result.2 = t := congrArg (·.result.2) hrendered
    rw [ht]
    exact (hgone "a" (by decide) (by decide)).2 (.inl (by decide))

/-- A refused first name ends the removals: the other, which the session would remove, stays. -/
theorem formatScript_leaves_after_refused :
    let rendered := (Formatter.default noObjects : Formatter Empty Unit).formatScript noObjects
      "nil" (Bindings.ofList [("a", .int 1), ("b", .int 2)]) (refusingSession ["a"])
    let left := rendered.result.2
    rendered.calls = [.set "a" (.int 1), .set "b" (.int 2), .eval "nil", .unset "a"] ∧
      Entries.find? "b" left.state.globals = some (.int 2) ∧
      (left.unset "b").result.1 = .ok () :=
  ⟨rfl, rfl, rfl⟩

end TextTemplate.Script
