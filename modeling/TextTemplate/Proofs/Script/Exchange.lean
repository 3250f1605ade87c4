import TextTemplate.Script.Rendering
set_option autoImplicit false

/-!
# Exchange: what is said between a rendering and a session

A session is seen from outside as a list of exchanges: a call, its answer, and whatever the session
itself did meanwhile.  `Talk` says that a session answers such a list from first to last.  A
`Series` is the part of a list that makes planned calls until one is refused; registering and
removing the bindings are both of this form.
-/

namespace TextTemplate

variable {ω σ : Type}

/-- The name that a call asks to remove. -/
def Call.removal? : Call ω → Option String
  | unset name => some name
  | _ => none

/-- The name that a call asks to register or to remove. -/
def Call.name? : Call ω → Option String
  | set name _ | unset name => some name
  | _ => none

/-- Does the call ask for a script to be evaluated? -/
def Call.isEval : Call ω → Bool
  | eval _ => true
  | _ => false

namespace Script

/-- A call of a session, its answer, and the events of the session while it answered. -/
inductive Exchange (ω : Type) where
  | set (name : String) (value : Value ω) (answer : Except Error Unit) (during : List (Event ω))
  | eval (source : String) (answer : Except Error (Value ω)) (during : List (Event ω))
  | unset (name : String) (answer : Except Error Unit) (during : List (Event ω))
  deriving Inhabited

namespace Exchange

/-- The call that is answered. -/
def call : Exchange ω → Call ω
  | set name v _ _ => .set name v
  | eval source _ _ => .eval source
  | unset name _ _ => .unset name

/-- What the session did while it answered. -/
def during : Exchange ω → List (Event ω)
  | set _ _ _ during => during
  | eval _ _ during => during
  | unset _ _ during => during

/-- Why the call was refused, if it was. -/
def error? : Exchange ω → Option Error
  | set _ _ (.error e) _ => some e
  | eval _ (.error e) _ => some e
  | unset _ (.error e) _ => some e
  | _ => none

/-- The name that is asked to be removed. -/
def removal? (x : Exchange ω) : Option String := x.call.removal?

/-- The call asks to register or to remove one of `names`. -/
def About (names : List String) (x : Exchange ω) : Prop :=
  ∃ name ∈ names, x.call.name? = some name

/-- The call as an event, and the events that it led to. -/
def events (x : Exchange ω) : List (Event ω) := .call x.call :: x.during

/-- The call, and the bridge calls among what it led to. -/
def calls (x : Exchange ω) : List (Call ω) := x.call :: x.during.filterMap Event.call?

theorem About.isEval_eq_false {names : List String} {x : Exchange ω} (h : x.About names) :
    x.call.isEval = false := by
  obtain ⟨name, -, hname⟩ := h
  cases x with
  | set | unset => rfl
  | eval => simp [call, Call.name?] at hname

theorem eq_set_of_accepted {name : String} {v : Value ω} {x : Exchange ω}
    (hcall : x.call = .set name v) (haccepted : x.error? = none) :
    ∃ during, x = .set name v (.ok ()) during := by
  cases x with
  | set name' v' answer during =>
    obtain ⟨rfl, rfl⟩ := Call.set.inj hcall
    cases answer with
    | ok => exact ⟨during, rfl⟩
    | error e => simp [error?] at haccepted
  | eval => simp [call] at hcall
  | unset => simp [call] at hcall

end Exchange

namespace Session

/-- The session `s` answers as in `x`, and is `t` after that. -/
inductive Answers : Session ω σ → Exchange ω → Session ω σ → Prop where
  | set {i : Interpreter ω σ} {name : String} {v : Value ω} {answer : Except Error Unit}
      {during : List (Event ω)} {state state' : σ}
      (reply : i.set name v state = ⟨during, answer, state'⟩) :
      Answers ⟨i, state⟩ (.set name v answer during) ⟨i, state'⟩
  | eval {i : Interpreter ω σ} {source : String} {answer : Except Error (Value ω)}
      {during : List (Event ω)} {state state' : σ}
      (reply : i.eval source state = ⟨during, answer, state'⟩) :
      Answers ⟨i, state⟩ (.eval source answer during) ⟨i, state'⟩
  | unset {i : Interpreter ω σ} {name : String} {answer : Except Error Unit}
      {during : List (Event ω)} {state state' : σ}
      (reply : i.unset name state = ⟨during, answer, state'⟩) :
      Answers ⟨i, state⟩ (.unset name answer during) ⟨i, state'⟩

/-- The session `s` answers `log` from first to last, and is `t` after that. -/
inductive Talk : Session ω σ → List (Exchange ω) → Session ω σ → Prop where
  | nil {s : Session ω σ} : Talk s [] s
  | cons {s t u : Session ω σ} {x : Exchange ω} {log : List (Exchange ω)}
      (head : s.Answers x t) (tail : Talk t log u) : Talk s (x :: log) u

theorem Answers.interpreter_eq {s t : Session ω σ} {x : Exchange ω} (h : s.Answers x t) :
    t.interpreter = s.interpreter := by
  cases h <;> rfl

theorem Talk.interpreter_eq {s t : Session ω σ} {log : List (Exchange ω)} (h : s.Talk log t) :
    t.interpreter = s.interpreter := by
  induction h with
  | nil => rfl
  | cons head tail ih => rw [ih, head.interpreter_eq]

theorem talk_append_iff {s t : Session ω σ} {log log' : List (Exchange ω)} :
    s.Talk (log ++ log') t ↔ ∃ u, s.Talk log u ∧ u.Talk log' t := by
  induction log generalizing s with
  | nil =>
    constructor
    · intro h
      exact ⟨s, .nil, h⟩
    · rintro ⟨u, ⟨⟩, h⟩
      exact h
  | cons x log ih =>
    constructor
    · rintro (_ | ⟨head, tail⟩)
      obtain ⟨u, hlog, hlog'⟩ := ih.1 tail
      exact ⟨u, .cons head hlog, hlog'⟩
    · rintro ⟨u, _ | ⟨head, tail⟩, hlog'⟩
      exact .cons head (ih.2 ⟨u, tail, hlog'⟩)

theorem Talk.append {s t u : Session ω σ} {log log' : List (Exchange ω)} (h : s.Talk log t)
    (h' : t.Talk log' u) : s.Talk (log ++ log') u :=
  talk_append_iff.2 ⟨t, h, h'⟩

/-! ## One call -/

theorem exists_set (s : Session ω σ) (name : String) (v : Value ω) :
    ∃ answer during t, s.set name v = ⟨(Exchange.set name v answer during).events, answer, t⟩ ∧
      s.Answers (.set name v answer during) t := by
  obtain ⟨i, state⟩ := s
  cases reply : i.set name v state with
  | mk during result =>
    refine ⟨result.1, during, ⟨i, result.2⟩, ?_, .set reply⟩
    simp [set, reply, Exchange.events, Exchange.call, Exchange.during, Logged.record, bind,
      Logged.bind, pure, Logged.pure]

theorem exists_eval (s : Session ω σ) (source : String) :
    ∃ answer during t, s.eval source = ⟨(Exchange.eval source answer during).events, answer, t⟩ ∧
      s.Answers (.eval source answer during) t := by
  obtain ⟨i, state⟩ := s
  cases reply : i.eval source state with
  | mk during result =>
    refine ⟨result.1, during, ⟨i, result.2⟩, ?_, .eval reply⟩
    simp [eval, reply, Exchange.events, Exchange.call, Exchange.during, Logged.record, bind,
      Logged.bind, pure, Logged.pure]

theorem exists_unset (s : Session ω σ) (name : String) :
    ∃ answer during t, s.unset name = ⟨(Exchange.unset name answer during).events, answer, t⟩ ∧
      s.Answers (.unset name answer during) t := by
  obtain ⟨i, state⟩ := s
  cases reply : i.unset name state with
  | mk during result =>
    refine ⟨result.1, during, ⟨i, result.2⟩, ?_, .unset reply⟩
    simp [unset, reply, Exchange.events, Exchange.call, Exchange.during, Logged.record, bind,
      Logged.bind, pure, Logged.pure]

end Session

/-! ## Calls until one is refused -/

/-- `log` makes the calls `planned` from first to last, until one is refused. -/
inductive Series : List (Call ω) → List (Exchange ω) → Except Error Unit → Prop where
  | done : Series [] [] (.ok ())
  | accepted {x : Exchange ω} {planned : List (Call ω)} {log : List (Exchange ω)}
      {outcome : Except Error Unit} (answer : x.error? = none) (tail : Series planned log outcome) :
      Series (x.call :: planned) (x :: log) outcome
  | refused {x : Exchange ω} {planned : List (Call ω)} {e : Error} (answer : x.error? = some e) :
      Series (x.call :: planned) [x] (.error e)

namespace Series

variable {planned : List (Call ω)} {log : List (Exchange ω)} {outcome : Except Error Unit}

theorem calls_prefix_planned (h : Series planned log outcome) :
    log.map Exchange.call <+: planned := by
  induction h with
  | done => exact List.prefix_rfl
  | accepted answer tail ih => exact List.cons_prefix_cons.2 ⟨rfl, ih⟩
  | refused answer => exact List.cons_prefix_cons.2 ⟨rfl, List.nil_prefix⟩

/-- Every call that is made was planned. -/
theorem call_mem_planned (h : Series planned log outcome) {x : Exchange ω} (hx : x ∈ log) :
    x.call ∈ planned :=
  h.calls_prefix_planned.subset (List.mem_map_of_mem hx)

theorem removals_prefix_planned (h : Series planned log outcome) :
    log.filterMap Exchange.removal? <+: planned.filterMap Call.removal? := by
  have hremovals : log.filterMap Exchange.removal? =
      (log.map Exchange.call).filterMap Call.removal? := by
    rw [List.filterMap_map]
    rfl
  rw [hremovals]
  exact h.calls_prefix_planned.filterMap Call.removal?

/-- Registering entries removes no name. -/
theorem removals_of_sets {entries : List (String × Value ω)}
    (h : Series (entries.map fun entry => .set entry.1 entry.2) log outcome) :
    log.filterMap Exchange.removal? = [] := by
  have hplanned :
      (entries.map fun entry => Call.set entry.1 entry.2).filterMap Call.removal? = [] := by
    rw [List.filterMap_eq_nil_iff]
    intro call hcall
    obtain ⟨entry, -, rfl⟩ := List.mem_map.1 hcall
    rfl
  have hinitial := h.removals_prefix_planned
  rw [hplanned] at hinitial
  exact List.prefix_nil.1 hinitial

/-- Registering entries is about their names. -/
theorem about_of_sets {entries : List (String × Value ω)}
    (h : Series (entries.map fun entry => .set entry.1 entry.2) log outcome) :
    ∀ x ∈ log, x.About (Entries.keys entries) := by
  intro x hx
  obtain ⟨entry, hentry, hcall⟩ := List.mem_map.1 (h.call_mem_planned hx)
  exact ⟨entry.1, List.mem_map_of_mem hentry, by rw [← hcall]; rfl⟩

/-- Removing names is about these. -/
theorem about_of_unsets {names : List String} (h : Series (names.map .unset) log outcome) :
    ∀ x ∈ log, x.About names := by
  intro x hx
  obtain ⟨name, hname, hcall⟩ := List.mem_map.1 (h.call_mem_planned hx)
  exact ⟨name, hname, by rw [← hcall]; rfl⟩

end Series

namespace Session

/-- Registering entries is a series of calls. -/
theorem exists_setAll (s : Session ω σ) (entries : List (String × Value ω)) :
    ∃ log outcome t, s.setAll entries = ⟨log.flatMap Exchange.events, outcome, t⟩ ∧
      s.Talk log t ∧ Series (entries.map fun entry => .set entry.1 entry.2) log outcome := by
  induction entries generalizing s with
  | nil => exact ⟨[], .ok (), s, rfl, .nil, .done⟩
  | cons entry entries ih =>
    obtain ⟨name, v⟩ := entry
    obtain ⟨answer, during, t, hset, hanswers⟩ := s.exists_set name v
    cases answer with
    | error e =>
      refine ⟨[.set name v (.error e) during], .error e, t, ?_, .cons hanswers .nil,
        .refused (x := .set name v (.error e) during) rfl⟩
      simp only [setAll, hset, bind, Logged.bind, pure, Logged.pure, List.flatMap_singleton,
        List.append_nil]
    | ok =>
      obtain ⟨log, outcome, u, hsetAll, htalk, hseries⟩ := ih t
      refine ⟨.set name v (.ok ()) during :: log, outcome, u, ?_, .cons hanswers htalk,
        .accepted (x := .set name v (.ok ()) during) rfl hseries⟩
      simp only [setAll, hset, hsetAll, bind, Logged.bind, List.flatMap_cons]

/-- Removing names is a series of calls. -/
theorem exists_unsetAll (s : Session ω σ) (names : List String) :
    ∃ log outcome t, s.unsetAll names = ⟨log.flatMap Exchange.events, outcome, t⟩ ∧
      s.Talk log t ∧ Series (names.map .unset) log outcome := by
  induction names generalizing s with
  | nil => exact ⟨[], .ok (), s, rfl, .nil, .done⟩
  | cons name names ih =>
    obtain ⟨answer, during, t, hunset, hanswers⟩ := s.exists_unset name
    cases answer with
    | error e =>
      refine ⟨[.unset name (.error e) during], .error e, t, ?_, .cons hanswers .nil,
        .refused (x := .unset name (.error e) during) rfl⟩
      simp only [unsetAll, hunset, bind, Logged.bind, pure, Logged.pure, List.flatMap_singleton,
        List.append_nil]
    | ok =>
      obtain ⟨log, outcome, u, hunsetAll, htalk, hseries⟩ := ih t
      refine ⟨.unset name (.ok ()) during :: log, outcome, u, ?_, .cons hanswers htalk,
        .accepted (x := .unset name (.ok ()) during) rfl hseries⟩
      simp only [unsetAll, hunset, hunsetAll, bind, Logged.bind, List.flatMap_cons]

end Session

end Script

end TextTemplate
