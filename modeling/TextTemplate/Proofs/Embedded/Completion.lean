import TextTemplate.Fixture.Object
import TextTemplate.Proofs.Embedded.Endless
import TextTemplate.Proofs.Script.Rounds
set_option autoImplicit false

/-!
# Completion: renderings that come to an end

A rendering goes on to its text unless a session ends the program.  A session of the embedded
language does so when a script gives an endless result, and in no other case: registering and
removing names only reads objects.  So the second pass of a template completes exactly if no script
in it gives an endless result where it is evaluated (`formatScripts_completes_iff`).
-/

namespace TextTemplate

variable {ω : Type}

namespace Logged

variable {α β : Type}

@[simp] theorem completes_pure (a : α) : (Pure.pure a : Logged ω α).completes = true := rfl

@[simp] theorem completes_bind (x : Logged ω α) (f : α → Logged ω β) :
    (x >>= f).completes = (x.completes && (f x.result).completes) := by
  simp [completes]

theorem completes_append (xs ys : List (Event ω)) (a : α) :
    (⟨xs ++ ys, a⟩ : Logged ω α).completes =
      ((⟨xs, a⟩ : Logged ω α).completes && (⟨ys, a⟩ : Logged ω α).completes) := by
  simp [completes]

end Logged

/-! ## Objects are only read -/

namespace Value

variable {α β : Type} {host : Host ω} {object : ω → Reading ω Detached}

theorem completes_run_bind {x : Reading ω α} {f : α → Reading ω β} (hx : x.run.completes = true)
    (hf : ∀ a, (f a).run.completes = true) : (x >>= f).run.completes = true := by
  rw [OptionT.run_bind, Option.elimM, Logged.completes_bind, hx, Bool.true_and]
  cases x.run.result with
  | none => rfl
  | some a => exact hf a

mutual

theorem completes_detachWith (h : ∀ o, (object o).run.completes = true) (v : Value ω) :
    (detachWith object v).run.completes = true := by
  cases v with
  | list items => exact completes_run_bind (completes_detachItems h items) fun _ => rfl
  | map entries => exact completes_run_bind (completes_detachEntries h entries) fun _ => rfl
  | object o => exact h o
  | _ => rfl

theorem completes_detachItems (h : ∀ o, (object o).run.completes = true) (vs : List (Value ω)) :
    (detachItems object vs).run.completes = true := by
  cases vs with
  | nil => rfl
  | cons v vs =>
    exact completes_run_bind (completes_detachWith h v) fun _ =>
      completes_run_bind (completes_detachItems h vs) fun _ => rfl

theorem completes_detachEntries (h : ∀ o, (object o).run.completes = true)
    (es : List (String × Value ω)) : (detachEntries object es).run.completes = true := by
  cases es with
  | nil => rfl
  | cons e es =>
    exact completes_run_bind (completes_detachWith h e.2) fun _ =>
      completes_run_bind (completes_detachEntries h es) fun _ => rfl

end

theorem completes_detachFields (h : ∀ o, (object o).run.completes = true) (o : ω)
    (names : List String) : (detachFields host object o names).run.completes = true := by
  induction names with
  | nil => rfl
  | cons name names ih =>
    refine completes_run_bind rfl fun v? => ?_
    cases v? with
    | none => exact ih
    | some v =>
      exact completes_run_bind (completes_detachWith h v) fun _ =>
        completes_run_bind ih fun _ => rfl

theorem completes_detachObject (depth : Nat) (o : ω) :
    (detachObject host depth o).run.completes = true := by
  induction depth generalizing o with
  | zero => rfl
  | succ depth ih =>
    rw [detachObject]
    split
    · rfl
    · exact completes_run_bind (completes_detachFields ih o _) fun _ => rfl

/-- Reading the objects in a value does not end the program. -/
theorem completes_detach (depth : Nat) (v : Value ω) :
    (v.detach host depth).run.completes = true :=
  completes_detachWith (completes_detachObject depth) v

end Value

/-! ## Sessions -/

namespace Embedded

open Script (Block Exchange Interpreter Round Session conversation)
open Relation (TransGen)

variable {host : Host ω} {view : TableView} {depth : Nat} {m : Machine}

/-- The script runs, and its result has no end. -/
def Machine.Endless (ω : Type) (view : TableView) (m : Machine) (source : String) : Prop :=
  ∃ chunk d m', Chunk.readEvaluated source = .ok chunk ∧
    (runChunk chunk).run m = (.ok d, m') ∧ d.Endless ω view m'.heap

theorem completes_set (host : Host ω) (view : TableView) (depth : Nat) (name : String)
    (v : Value ω) (m : Machine) : ((interpreter host view depth).set name v m).completes = true := by
  have hdetach : (v.detach host depth).run.completes = true := Value.completes_detach depth v
  simp only [interpreter, Logged.completes_bind, hdetach, Bool.true_and]
  split <;> rfl

theorem completes_unset (host : Host ω) (view : TableView) (depth : Nat) (name : String)
    (m : Machine) : ((interpreter host view depth).unset name m).completes = true := rfl

theorem completes_returnResult_iff (hview : view.Lawful) {heap : Heap} {d : Datum} :
    (returnResult (ω := ω) view heap d).completes = true ↔ ¬ d.Endless ω view heap := by
  rw [← result_eq_cycle_iff hview, returnResult]
  dsimp only
  split
  · next hcycle =>
    rw [hcycle]
    exact ⟨fun h => absurd h Bool.false_ne_true, fun h => absurd rfl h⟩
  · next hnot => exact ⟨fun _ => hnot, fun _ => rfl⟩

/-- Evaluating a script completes unless the script gives an endless result. -/
theorem completes_eval_iff (hview : view.Lawful) (source : String) :
    ((interpreter host view depth).eval source m).completes = true ↔
      ¬ m.Endless ω view source := by
  change (evalScript view source m).completes = true ↔ _
  rw [evalScript]
  split
  · next f hread =>
    refine ⟨fun _ => ?_, fun _ => rfl⟩
    rintro ⟨chunk, d, m', hread', -⟩
    rw [hread] at hread'
    cases hread'
  · next chunk hread =>
    split
    · next f m' hrun =>
      refine ⟨fun _ => ?_, fun _ => rfl⟩
      rintro ⟨chunk', d, m'', hread', hrun', -⟩
      cases hread.symm.trans hread'
      rw [hrun] at hrun'
      cases hrun'
    · next d m' hrun =>
      rw [Logged.completes_bind, Logged.completes_pure, Bool.and_true,
        completes_returnResult_iff hview, not_iff_not]
      constructor
      · exact fun hd => ⟨chunk, d, m', hread, hrun, hd⟩
      · rintro ⟨chunk', d', m'', hread', hrun', hd⟩
        cases hread.symm.trans hread'
        cases hrun.symm.trans hrun'
        exact hd

/-! ## Renderings -/

section Rendering

variable {s t : Session ω Machine} {x : Exchange ω} {log : List (Exchange ω)}

/-- No script whose result has no end is evaluated while a session answers. -/
def EndsThroughout (view : TableView) (s : Session ω Machine) (log : List (Exchange ω)) : Prop :=
  ∀ before x after u source, log = before ++ x :: after → s.Talk before u →
    x.call = .eval source → ¬ u.state.Endless ω view source

/-- One answer completes unless it is to a script with an endless result. -/
theorem completes_events_iff (hview : view.Lawful)
    (hs : s.interpreter = interpreter host view depth) (h : s.Answers x t) :
    (Logged.mk x.events ()).completes = true ↔
      ∀ source, x.call = .eval source → ¬ s.state.Endless ω view source := by
  cases h with
  | @set i name v answer during state state' reply =>
    obtain rfl : i = interpreter host view depth := hs
    have hset := completes_set host view depth name v state
    rw [reply] at hset
    refine ⟨fun _ source hcall => ?_, fun _ => hset⟩
    cases hcall
  | @eval i source answer during state state' reply =>
    obtain rfl : i = interpreter host view depth := hs
    have heval : ((interpreter host view depth).eval source state).completes = true ↔
        ¬ state.Endless ω view source := completes_eval_iff hview source
    rw [reply] at heval
    refine (Iff.trans ?_ heval).trans ⟨fun hend source' hcall => ?_, fun hend => hend source rfl⟩
    · rfl
    · cases hcall
      exact hend
  | @unset i name answer during state state' reply =>
    obtain rfl : i = interpreter host view depth := hs
    have hunset := completes_unset host view depth name state
    rw [reply] at hunset
    refine ⟨fun _ source hcall => ?_, fun _ => hunset⟩
    cases hcall

theorem answers_unique {t' : Session ω Machine} (h : s.Answers x t) (h' : s.Answers x t') :
    t = t' := by
  cases h with
  | set reply =>
    cases h' with | set reply' =>
    cases reply.symm.trans reply'
    rfl
  | eval reply =>
    cases h' with | eval reply' =>
    cases reply.symm.trans reply'
    rfl
  | unset reply =>
    cases h' with | unset reply' =>
    cases reply.symm.trans reply'
    rfl

theorem endsThroughout_cons_iff (h : s.Answers x t) :
    EndsThroughout view s (x :: log) ↔
      (∀ source, x.call = .eval source → ¬ s.state.Endless ω view source) ∧
        EndsThroughout view t log := by
  constructor
  · intro hall
    refine ⟨fun source hcall => hall [] x log s source rfl .nil hcall, ?_⟩
    intro before y after u source hlog htalk hcall
    exact hall (x :: before) y after u source (by rw [hlog, List.cons_append]) (.cons h htalk) hcall
  · rintro ⟨hfirst, hothers⟩ before y after u source hlog htalk hcall
    cases before with
    | nil =>
      obtain ⟨rfl, rfl⟩ := List.cons.inj hlog
      cases htalk
      exact hfirst source hcall
    | cons z before =>
      obtain ⟨rfl, rfl⟩ := List.cons.inj hlog
      cases htalk with | cons head tail =>
      obtain rfl := answers_unique h head
      exact hothers before y after u source rfl tail hcall

theorem completes_talk_iff (hview : view.Lawful)
    (hs : s.interpreter = interpreter host view depth) (h : s.Talk log t) :
    (Logged.mk (log.flatMap Exchange.events) ()).completes = true ↔ EndsThroughout view s log := by
  induction h with
  | nil =>
    refine ⟨fun _ before x after u source hlog => ?_, fun _ => rfl⟩
    exact absurd hlog.symm (by simp)
  | cons head tail ih =>
    rw [endsThroughout_cons_iff head, ← ih (head.interpreter_eq.trans hs),
      ← completes_events_iff hview hs head, List.flatMap_cons, Logged.completes_append,
      Bool.and_eq_true]

end Rendering

/-- Whether there is an end to a result depends on the tables that are met on the way: there is one
exactly if none of them leads back to itself, so always where no table is in itself.  The second
pass of a template completes exactly if every result that it meets has an end. -/
theorem formatScripts_completes_iff (hview : view.Lawful) (config : Config)
    (format : ValueFormatter ω) (host : Host ω) (depth : Nat) (m : Machine) (template : String)
    (bindings : Bindings ω) :
    let s : Session ω Machine := ⟨interpreter host view depth, m⟩
    let f : Formatter ω Machine := ⟨config, format, some ⟨.ok s⟩⟩
    (∀ (heap : Heap) (d : Datum), (∃ depth r, d.toValue (ω := ω) view heap depth = some r) ↔
      ¬ d.Endless ω view heap) ∧
    (∀ (heap : Heap) (d : Datum), (∀ id, (heap.table id).Sound) →
      (∀ id, ¬ TransGen (Holds heap) id id) →
      ∃ r, d.toValue (ω := ω) view heap (heap.size + 1) = some r) ∧
    ∃ rounds rendered t,
      Script.blocks template.toList config.scriptStart.toList config.scriptEnd.toList =
        .ok (rounds.map Round.block) ∧
      f.formatScripts host template bindings = .ok rendered ∧
      s.Talk (conversation rounds) t ∧
      (rendered.completes = true ↔ EndsThroughout view s (conversation rounds)) := by
  intro s f
  obtain ⟨rounds, rendered, hblocks, hrendered, hprotocol, -⟩ :=
    Script.exists_formatScripts f host template bindings
  obtain ⟨t, htalk, -, hevents⟩ := hprotocol.exists_talk rfl
  refine ⟨fun heap d => exists_toValue_iff hview, fun heap d hsound hacyclic => ?_,
    rounds, rendered, t, hblocks, hrendered, htalk, ?_⟩
  · exact exists_toValue_of_not_endless hview (not_endless_of_acyclic hview hsound hacyclic d)
  · have hinterpreter : s.interpreter = interpreter host view depth := rfl
    obtain ⟨events, text⟩ := rendered
    obtain rfl := hevents
    have hcreation : (⟨(Script.factoryCalls f.factory (rounds.map Round.block)).map Event.call,
        text⟩ : Logged ω String).completes = true := by
      cases rounds <;> rfl
    rw [Logged.completes_append, hcreation, Bool.true_and,
      ← completes_talk_iff hview hinterpreter htalk]
    rfl

set_option maxRecDepth 20000 in
/-- A table that is in another one twice leads nowhere else, so rendering it completes. -/
theorem formatScripts_completes_shared :
    TableView.standard.Lawful ∧
    let s : Session Fixture.Object Machine := session Fixture.host
    let f : Formatter Fixture.Object Machine :=
      ⟨{ scripts := true }, ValueFormatter.display Fixture.host, some (factory Fixture.host)⟩
    ∃ rounds rendered,
      f.formatScripts Fixture.host "<bsh>local t = {1} return {t, t}</bsh>" .empty = .ok rendered ∧
      rendered.completes = true ∧ EndsThroughout .standard s (conversation rounds) := by
  refine ⟨TableView.standard_lawful, ?_⟩
  intro s f
  obtain ⟨-, -, rounds, rendered, t, -, hrendered, -, hiff⟩ :=
    formatScripts_completes_iff TableView.standard_lawful f.config f.format Fixture.host maxObjects
      Machine.initial "<bsh>local t = {1} return {t, t}</bsh>" .empty
  have hcompletes : ((f.formatScripts Fixture.host "<bsh>local t = {1} return {t, t}</bsh>"
      .empty).toOption.map Logged.completes) = some true := by decide +kernel
  have hdone : rendered.completes = true := by
    change f.formatScripts Fixture.host _ .empty = .ok rendered at hrendered
    rw [hrendered] at hcompletes
    exact Option.some.inj hcompletes
  exact ⟨rounds, rendered, hrendered, hdone, hiff.1 hdone⟩

/-- There is no end to a table that is its own first item, whatever the depth; a script that gives
one ends the program. -/
theorem render_aborts_on_cycle :
    (∀ depth, ((Datum.table 0).toValue .standard #[{ entries := [(.int 1, .table 0)] }] depth :
      Returning (Value Fixture.Object)) = none) ∧
    let f : Formatter Fixture.Object Machine :=
      ⟨{ scripts := true }, ValueFormatter.display Fixture.host, some (factory Fixture.host)⟩
    ∃ rendered,
      f.render Fixture.host "<bsh>local t = {} t[1] = t return t</bsh>" .empty = .ok rendered ∧
      rendered.completes = false := by
  constructor
  · have hmeets : Meets Fixture.Object .standard #[{ entries := [(.int 1, .table 0)] }] 0 0 :=
      ⟨0, [], .int 1, [], [], rfl, rfl⟩
    exact fun depth => tableValue_eq_none_of_cycle (.single hmeets) depth
  · intro f
    have hcompletes : ((f.render Fixture.host "<bsh>local t = {} t[1] = t return t</bsh>"
        .empty).toOption.map Logged.completes) = some false := by decide +kernel
    cases hrendered : f.render Fixture.host "<bsh>local t = {} t[1] = t return t</bsh>" .empty with
    | error e =>
      rw [hrendered] at hcompletes
      cases hcompletes
    | ok rendered =>
      rw [hrendered] at hcompletes
      exact ⟨rendered, rfl, Option.some.inj hcompletes⟩

end Embedded

end TextTemplate
