import TextTemplate.Proofs.Script.Exchange
set_option autoImplicit false

/-!
# Globals: sessions that keep names

What a session is asked to register and to remove are names, so its states can be read as maps of
names.  A `GlobalsView` is such a reading, together with the promise that a removal removes just its
name and that a refused one removes nothing.  What the session does with a registration, and what a
script does to the names, is left open.  A `NamesView` promises the same of registrations; it still
leaves open what a script does.
-/

namespace TextTemplate.Script

variable {ω σ : Type}

/-- A reading of the states of an interpreter as the names that are registered in them. -/
structure Interpreter.GlobalsView (i : Interpreter ω σ) where
  /-- the states that a session of `i` can be in -/
  Valid : σ → Prop
  /-- what is registered under each name -/
  globals : σ → String → Option (Value ω)
  valid_set : ∀ {state : σ} (name : String) (v : Value ω), Valid state →
    Valid (i.set name v state).result.2
  valid_eval : ∀ {state : σ} (source : String), Valid state → Valid (i.eval source state).result.2
  valid_unset : ∀ {state : σ} (name : String), Valid state → Valid (i.unset name state).result.2
  /-- a removal removes one name -/
  unset_accepted : ∀ {state : σ} {name : String}, Valid state →
    (i.unset name state).result.1 = .ok () → ∀ n,
      globals (i.unset name state).result.2 n = if n = name then none else globals state n
  /-- a refused removal removes nothing -/
  unset_refused : ∀ {state : σ} {name : String} {e : Error}, Valid state →
    (i.unset name state).result.1 = .error e →
      globals (i.unset name state).result.2 = globals state

/-- A reading of the states of an interpreter in which a registration, too, changes one name. -/
structure Interpreter.NamesView (i : Interpreter ω σ) extends i.GlobalsView where
  /-- a registration registers one name -/
  set_accepted : ∀ {state : σ} {name : String} {v : Value ω}, Valid state →
    (i.set name v state).result.1 = .ok () → ∀ n,
      globals (i.set name v state).result.2 n = if n = name then some v else globals state n
  /-- a refused registration registers nothing -/
  set_refused : ∀ {state : σ} {name : String} {v : Value ω} {e : Error}, Valid state →
    (i.set name v state).result.1 = .error e →
      globals (i.set name v state).result.2 = globals state

/-- The names that `i` refuses to remove are those of `refused`, in every state. -/
def Interpreter.Refuses (i : Interpreter ω σ) (refused : String → Bool) : Prop :=
  ∀ name state, (∃ e, (i.unset name state).result.1 = .error e) ↔ refused name = true

namespace Session

theorem Answers.valid {s t : Session ω σ} {x : Exchange ω} {i : Interpreter ω σ}
    (view : i.GlobalsView) (h : s.Answers x t) (hi : s.interpreter = i)
    (hvalid : view.Valid s.state) : view.Valid t.state := by
  subst hi
  cases h with
  | @set i name v answer during state state' reply =>
    have hstep := view.valid_set name v hvalid
    rw [reply] at hstep
    exact hstep
  | @eval i source answer during state state' reply =>
    have hstep := view.valid_eval source hvalid
    rw [reply] at hstep
    exact hstep
  | @unset i name answer during state state' reply =>
    have hstep := view.valid_unset name hvalid
    rw [reply] at hstep
    exact hstep

/-- What an answered removal does to the names: nothing if it is refused, else it removes one. -/
theorem Answers.globals_eq {s t : Session ω σ} {x : Exchange ω} {i : Interpreter ω σ}
    (view : i.GlobalsView) {refused : String → Bool} {name : String} (h : s.Answers x t)
    (hi : s.interpreter = i) (hvalid : view.Valid s.state) (hrefuses : i.Refuses refused)
    (hname : x.call = .unset name) :
    (x.error? = none ↔ refused name = false) ∧
      ∀ n, view.globals t.state n =
        if n = name ∧ refused name = false then none else view.globals s.state n := by
  subst hi
  cases h with
  | set reply => simp [Exchange.call] at hname
  | eval reply => simp [Exchange.call] at hname
  | @unset i name answer during state state' reply =>
    obtain rfl : name = _ := by simpa [Exchange.call] using hname
    have hanswer := hrefuses name state
    rw [reply] at hanswer
    cases answer with
    | error e =>
      have hrefused : refused name = true := hanswer.1 ⟨e, rfl⟩
      have hglobals := view.unset_refused hvalid (congrArg (·.result.1) reply)
      rw [reply] at hglobals
      refine ⟨by simp [Exchange.error?, hrefused], fun n => ?_⟩
      rw [if_neg (by simp [hrefused])]
      exact congrFun hglobals n
    | ok =>
      have haccepted : refused name = false := by
        rw [← Bool.not_eq_true, ← hanswer]
        rintro ⟨e, ⟨⟩⟩
      have hglobals := view.unset_accepted hvalid (congrArg (·.result.1) reply)
      rw [reply] at hglobals
      refine ⟨by simp [Exchange.error?, haccepted], fun n => ?_⟩
      simp only [haccepted, and_true]
      exact hglobals n

/-- A session stays in states that can be read. -/
theorem Talk.valid {s t : Session ω σ} {log : List (Exchange ω)} {i : Interpreter ω σ}
    (view : i.GlobalsView) (h : s.Talk log t) (hi : s.interpreter = i)
    (hvalid : view.Valid s.state) : view.Valid t.state := by
  induction h with
  | nil => exact hvalid
  | cons head tail ih => exact ih (head.interpreter_eq.trans hi) (head.valid view hi hvalid)

/-! ## Names that are asked about, and others -/

/-- An accepted registration leaves its value under its name. -/
theorem Answers.globals_registered {s t : Session ω σ} {i : Interpreter ω σ} (view : i.NamesView)
    {name : String} {v : Value ω} {during : List (Event ω)}
    (h : s.Answers (.set name v (.ok ()) during) t) (hi : s.interpreter = i)
    (hvalid : view.Valid s.state) : view.globals t.state name = some v := by
  subst hi
  obtain @⟨i, _, _, _, _, state, state', reply⟩ := h
  have hglobals := view.set_accepted hvalid (congrArg (·.result.1) reply) name
  rw [reply, if_pos rfl] at hglobals
  exact hglobals

/-- A call about one name leaves every other as it was, whether it is refused or not. -/
theorem Answers.globals_of_other {s t : Session ω σ} {x : Exchange ω} {i : Interpreter ω σ}
    (view : i.NamesView) (h : s.Answers x t) (hi : s.interpreter = i) (hvalid : view.Valid s.state)
    {name n : String} (hname : x.call.name? = some name) (hother : n ≠ name) :
    view.globals t.state n = view.globals s.state n := by
  subst hi
  cases h with
  | @set i name' v answer during state state' reply =>
    obtain rfl : name' = name := by simpa [Exchange.call, Call.name?] using hname
    cases answer with
    | ok =>
      have hglobals := view.set_accepted hvalid (congrArg (·.result.1) reply) n
      rw [reply, if_neg hother] at hglobals
      exact hglobals
    | error e =>
      have hglobals := view.set_refused hvalid (congrArg (·.result.1) reply)
      rw [reply] at hglobals
      exact congrFun hglobals n
  | eval reply => simp [Exchange.call, Call.name?] at hname
  | @unset i name' answer during state state' reply =>
    obtain rfl : name' = name := by simpa [Exchange.call, Call.name?] using hname
    cases answer with
    | ok =>
      have hglobals := view.unset_accepted hvalid (congrArg (·.result.1) reply) n
      rw [reply, if_neg hother] at hglobals
      exact hglobals
    | error e =>
      have hglobals := view.unset_refused hvalid (congrArg (·.result.1) reply)
      rw [reply] at hglobals
      exact congrFun hglobals n

/-- Calls about other names leave a name as it was. -/
theorem Talk.globals_of_others {s t : Session ω σ} {log : List (Exchange ω)} {i : Interpreter ω σ}
    (view : i.NamesView) (h : s.Talk log t) (hi : s.interpreter = i) (hvalid : view.Valid s.state)
    {n : String} (hothers : ∀ x ∈ log, ∃ name, x.call.name? = some name ∧ n ≠ name) :
    view.globals t.state n = view.globals s.state n := by
  induction h with
  | nil => rfl
  | cons head tail ih =>
    obtain ⟨⟨name, hname, hother⟩, hlater⟩ := List.forall_mem_cons.1 hothers
    rw [ih (head.interpreter_eq.trans hi) (head.valid view.toGlobalsView hi hvalid) hlater,
      head.globals_of_other view hi hvalid hname hother]

end Session

end TextTemplate.Script
