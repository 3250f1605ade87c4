import Mathlib.Data.List.Basic
import TextTemplate.Proofs.Script.Exchange
set_option autoImplicit false

/-!
# Bracketing: one script between its bindings

`Bracketed` tells the four ways in which the evaluation of a script can go: a binding was refused,
the script failed, a removal was refused, or there is a value.  Whichever it is, the removals are a
series of their own at the end, and the earliest failure is the result.
-/

namespace TextTemplate.Script

variable {ω σ : Type}

/-- `log` registers the bindings, evaluates `source` if that succeeded, and removes the bindings;
`result` is the earliest failure, or the value. -/
inductive Bracketed (bindings : Bindings ω) (source : String) :
    List (Exchange ω) → Except Error (Value ω) → Prop where
  | unregistered {sets unsets : List (Exchange ω)} {e : Error} {released : Except Error Unit}
      (registering : Series (bindings.entries.map fun entry => .set entry.1 entry.2) sets
        (.error e))
      (removing : Series (bindings.names.map .unset) unsets released) :
      Bracketed bindings source (sets ++ unsets) (.error e)
  | failed {sets unsets : List (Exchange ω)} {e : Error} {during : List (Event ω)}
      {released : Except Error Unit}
      (registering : Series (bindings.entries.map fun entry => .set entry.1 entry.2) sets (.ok ()))
      (removing : Series (bindings.names.map .unset) unsets released) :
      Bracketed bindings source (sets ++ .eval source (.error e) during :: unsets) (.error e)
  | unreleased {sets unsets : List (Exchange ω)} {v : Value ω} {during : List (Event ω)} {e : Error}
      (registering : Series (bindings.entries.map fun entry => .set entry.1 entry.2) sets (.ok ()))
      (removing : Series (bindings.names.map .unset) unsets (.error e)) :
      Bracketed bindings source (sets ++ .eval source (.ok v) during :: unsets) (.error e)
  | evaluated {sets unsets : List (Exchange ω)} {v : Value ω} {during : List (Event ω)}
      (registering : Series (bindings.entries.map fun entry => .set entry.1 entry.2) sets (.ok ()))
      (removing : Series (bindings.names.map .unset) unsets (.ok ())) :
      Bracketed bindings source (sets ++ .eval source (.ok v) during :: unsets) (.ok v)

/-- Running a script brackets it. -/
theorem Session.exists_runScript (s : Session ω σ) (bindings : Bindings ω) (source : String) :
    ∃ log result t, s.runScript bindings source = ⟨log.flatMap Exchange.events, result, t⟩ ∧
      s.Talk log t ∧ Bracketed bindings source log result := by
  obtain ⟨sets, registered, u, hset, hsets, hregistering⟩ := s.exists_setAll bindings.entries
  cases registered with
  | error e =>
    obtain ⟨unsets, released, t, hunset, hunsets, hremoving⟩ := u.exists_unsetAll bindings.names
    refine ⟨sets ++ unsets, .error e, t, ?_, hsets.append hunsets,
      .unregistered hregistering hremoving⟩
    simp [runScript, evalAfter, hset, hunset, bind, Logged.bind, pure, Logged.pure]
  | ok =>
    obtain ⟨answer, during, u', heval, hanswers⟩ := u.exists_eval source
    obtain ⟨unsets, released, t, hunset, hunsets, hremoving⟩ := u'.exists_unsetAll bindings.names
    have htalk : s.Talk (sets ++ .eval source answer during :: unsets) t :=
      hsets.append (.cons hanswers hunsets)
    cases answer with
    | error e =>
      refine ⟨_, .error e, t, ?_, htalk, .failed hregistering hremoving⟩
      simp [runScript, evalAfter, hset, heval, hunset, bind, Logged.bind, pure, Logged.pure]
    | ok v =>
      cases released with
      | error e =>
        refine ⟨_, .error e, t, ?_, htalk, .unreleased hregistering hremoving⟩
        simp [runScript, evalAfter, hset, heval, hunset, bind, Logged.bind, pure, Logged.pure]
      | ok =>
        refine ⟨_, .ok v, t, ?_, htalk, .evaluated hregistering hremoving⟩
        simp [runScript, evalAfter, hset, heval, hunset, bind, Logged.bind, pure, Logged.pure]

/-- Rendering a script brackets it, and gives the text of its result. -/
theorem Session.exists_renderScript (host : Host ω) (nullString : String) (s : Session ω σ)
    (bindings : Bindings ω) (source : String) :
    ∃ log result t, s.renderScript host nullString bindings source =
        ⟨log.flatMap Exchange.events, resultText host nullString result, t⟩ ∧
      s.Talk log t ∧ Bracketed bindings source log result := by
  obtain ⟨log, result, t, hrun, htalk, hbracketed⟩ := s.exists_runScript bindings source
  refine ⟨log, result, t, ?_, htalk, hbracketed⟩
  simp [renderScript, hrun, bind, Logged.bind, pure, Logged.pure]

namespace Bracketed

variable {bindings : Bindings ω} {source : String} {log : List (Exchange ω)}
  {result : Except Error (Value ω)}

/-- A script has up to three phases: registrations, an evaluation if all of them succeeded, and
removals. -/
theorem exists_phases (h : Bracketed bindings source log result) :
    ∃ sets evals unsets registered released, log = sets ++ evals ++ unsets ∧
      Series (bindings.entries.map fun entry => .set entry.1 entry.2) sets registered ∧
      Series (bindings.names.map .unset) unsets released ∧
      (evals = [] ∨
        registered = .ok () ∧ ∃ answer during, evals = [.eval source answer during]) := by
  cases h with
  | @unregistered sets unsets e released registering removing =>
    exact ⟨sets, [], unsets, .error e, released, by simp, registering, removing, .inl rfl⟩
  | failed registering removing =>
    exact ⟨_, _, _, .ok (), _, List.append_cons .., registering, removing, .inr ⟨rfl, _, _, rfl⟩⟩
  | unreleased registering removing =>
    exact ⟨_, _, _, .ok (), _, List.append_cons .., registering, removing, .inr ⟨rfl, _, _, rfl⟩⟩
  | evaluated registering removing =>
    exact ⟨_, _, _, .ok (), _, List.append_cons .., registering, removing, .inr ⟨rfl, _, _, rfl⟩⟩

/-- Everything but the evaluation is about bound names. -/
theorem about_names (h : Bracketed bindings source log result) {x : Exchange ω} (hx : x ∈ log)
    (hnot : x.call.isEval = false) : x.About bindings.names := by
  obtain ⟨sets, evals, unsets, registered, released, rfl, hsets, hunsets, hevals⟩ := h.exists_phases
  rcases List.mem_append.1 hx with hx | hx
  · rcases List.mem_append.1 hx with hx | hx
    · exact hsets.about_of_sets x hx
    · rcases hevals with rfl | ⟨-, answer, during, rfl⟩
      · exact absurd hx List.not_mem_nil
      · obtain rfl := List.mem_singleton.1 hx
        simp [Exchange.call, Call.isEval] at hnot
  · exact hunsets.about_of_unsets x hx

/-- What comes before the evaluation is the registration of all bindings. -/
theorem registering_of_eval (h : Bracketed bindings source log result)
    {before after : List (Exchange ω)} {x : Exchange ω} (hlog : log = before ++ x :: after)
    (heval : x.call.isEval = true) :
    Series (bindings.entries.map fun entry => .set entry.1 entry.2) before (.ok ()) := by
  obtain ⟨sets, evals, unsets, registered, released, rfl, hsets, hunsets, hevals⟩ := h.exists_phases
  have hnotSet : x ∉ sets := fun hx => by
    simp [(hsets.about_of_sets x hx).isEval_eq_false] at heval
  have hnotUnset : x ∉ unsets := fun hx => by
    simp [(hunsets.about_of_unsets x hx).isEval_eq_false] at heval
  rcases hevals with rfl | ⟨rfl, answer, during, rfl⟩
  · have hx : x ∈ sets ++ [] ++ unsets := hlog ▸ List.mem_append_right before List.mem_cons_self
    rw [List.append_nil] at hx
    exact absurd (List.mem_append.1 hx) (not_or.2 ⟨hnotSet, hnotUnset⟩)
  · rw [List.append_assoc, List.singleton_append] at hlog
    obtain ⟨rfl, -⟩ := (List.append_cons_inj_of_notMem hnotSet hnotUnset).1 hlog
    exact hsets

/-- Whatever came before, the removals stand at the end. -/
theorem exists_removing (h : Bracketed bindings source log result) :
    ∃ asked unsets released, log = asked ++ unsets ∧ asked.filterMap Exchange.removal? = [] ∧
      Series (bindings.names.map .unset) unsets released := by
  obtain ⟨sets, evals, unsets, registered, released, rfl, hsets, hunsets, hevals⟩ := h.exists_phases
  refine ⟨sets ++ evals, unsets, released, rfl, ?_, hunsets⟩
  rw [List.filterMap_append, hsets.removals_of_sets]
  rcases hevals with rfl | ⟨-, answer, during, rfl⟩
  · rfl
  · rfl

end Bracketed

end TextTemplate.Script
