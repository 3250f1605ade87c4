import Mathlib.Data.List.Induction
import TextTemplate.Proofs.Fixture.Rehearsal
import TextTemplate.Proofs.Script.Rounds
set_option autoImplicit false

/-!
# Sight: what a script sees

When a script is evaluated, all bindings have just been registered, so it sees every bound name with
its value.  Between two evaluations only bound names are asked about, so it sees every other name as
the evaluation before it left that name.  Neither depends on what earlier scripts did to the names,
nor on which calls were refused on the way.
-/

namespace TextTemplate.Script

open Fixture (Rehearsal evalWords noObjects refusingSession rehearsedFactory rehearsedNames)

variable {ω σ : Type}

/-- `w` is the session `s` as the last evaluation in `log` left it, or `s` itself if there was no
evaluation: what is said to reach it ends with one, if anything is said, and none comes later. -/
def Session.LeftBy (s : Session ω σ) (log : List (Exchange ω)) (w : Session ω σ) : Prop :=
  ∃ earlier later, log = earlier ++ later ∧ s.Talk earlier w ∧
    (∀ x, earlier.getLast? = some x → x.call.isEval = true) ∧ ∀ x ∈ later, x.call.isEval = false

/-- Every talk goes on from what the last evaluation left, without another one. -/
theorem Session.Talk.exists_leftBy {s u : Session ω σ} {log : List (Exchange ω)}
    (h : s.Talk log u) :
    ∃ w later, s.LeftBy log w ∧ w.Talk later u ∧
      ∀ x ∈ later, x ∈ log ∧ x.call.isEval = false := by
  induction log using List.reverseRecOn generalizing u with
  | nil => exact ⟨s, [], ⟨[], [], rfl, .nil, by simp, by simp⟩, h, by simp⟩
  | append_singleton log x ih =>
    cases heval : x.call.isEval with
    | true =>
      refine ⟨u, [], ⟨log ++ [x], [], (List.append_nil _).symm, h, ?_, by simp⟩, .nil, by simp⟩
      simpa using heval
    | false =>
      obtain ⟨v, hlog, hx⟩ := Session.talk_append_iff.1 h
      obtain ⟨w, later, ⟨earlier, behind, rfl, hearlier, hlast, hnone⟩, hlater, hquiet⟩ := ih hlog
      refine ⟨w, later ++ [x], ⟨earlier, behind ++ [x], List.append_assoc .., hearlier, hlast, ?_⟩,
        hlater.append hx, ?_⟩
      · intro y hy
        rcases List.mem_append.1 hy with hy | hy
        · exact hnone y hy
        · rw [List.mem_singleton.1 hy, heval]
      · intro y hy
        rcases List.mem_append.1 hy with hy | hy
        · exact ⟨List.mem_append_left _ (hquiet y hy).1, (hquiet y hy).2⟩
        · exact ⟨List.mem_append_right _ hy, by rw [List.mem_singleton.1 hy, heval]⟩

/-- When registering entries under different names has succeeded, each has its value. -/
theorem Series.globals_registered {s t : Session ω σ} {i : Interpreter ω σ} (view : i.NamesView)
    {entries : List (String × Value ω)} {log : List (Exchange ω)} {outcome : Except Error Unit}
    (h : Series (entries.map fun entry => .set entry.1 entry.2) log outcome)
    (houtcome : outcome = .ok ()) (htalk : s.Talk log t) (hi : s.interpreter = i)
    (hvalid : view.Valid s.state) (hnodup : (Entries.keys entries).Nodup) :
    ∀ entry ∈ entries, view.globals t.state entry.1 = some entry.2 := by
  generalize hplanned : (entries.map fun entry => Call.set entry.1 entry.2) = planned at h
  induction h generalizing entries s with
  | done =>
    obtain rfl : entries = [] := List.map_eq_nil_iff.1 hplanned
    simp
  | @accepted x planned log outcome answer tail ih =>
    obtain ⟨⟨name, v⟩, entries, rfl, hcall, rfl⟩ := List.map_eq_cons_iff.1 hplanned
    obtain _ | @⟨_, u, _, _, _, head, rest⟩ := htalk
    obtain ⟨hnot, hnodup⟩ := List.nodup_cons.1 hnodup
    have hi' : u.interpreter = i := head.interpreter_eq.trans hi
    have hvalid' : view.Valid u.state := head.valid view.toGlobalsView hi hvalid
    intro entry hentry
    rcases List.mem_cons.1 hentry with rfl | hentry
    · -- What follows is about other names.
      have hothers : ∀ y ∈ log, ∃ other, y.call.name? = some other ∧ name ≠ other := by
        intro y hy
        obtain ⟨other, hother, hyname⟩ := tail.about_of_sets y hy
        exact ⟨other, hyname, fun heq => hnot (heq ▸ hother)⟩
      rw [rest.globals_of_others view hi' hvalid' hothers]
      obtain ⟨during, rfl⟩ := Exchange.eq_set_of_accepted hcall.symm answer
      exact head.globals_registered view hi hvalid
    · exact ih houtcome rest hi' hvalid' hnodup rfl entry hentry
  | refused answer => cases houtcome

/-- Every exchange of a conversation belongs to a round. -/
theorem exists_round_of_conversation {rounds : List (Round ω)} {before after : List (Exchange ω)}
    {x : Exchange ω} (h : conversation rounds = before ++ x :: after) :
    ∃ earlier, ∃ r ∈ rounds, ∃ said rest, before = earlier ++ said ∧ r.log = said ++ x :: rest := by
  induction rounds generalizing before with
  | nil => simp [conversation] at h
  | cons r rounds ih =>
    have hsplit : r.log ++ conversation rounds = before ++ x :: after := h
    rcases List.append_eq_append_iff.1 hsplit with ⟨more, hbefore, hlater⟩ | ⟨more, hlog, hrest⟩
    · obtain ⟨earlier, r', hr', said, rest, rfl, hlog⟩ := ih hlater
      exact ⟨r.log ++ earlier, r', List.mem_cons_of_mem _ hr', said, rest,
        by rw [hbefore, List.append_assoc], hlog⟩
    · cases more with
      | nil =>
        have hlater : conversation rounds = [] ++ x :: after := hrest.symm
        obtain ⟨earlier, r', hr', said, rest, hsaid, hlog'⟩ := ih hlater
        refine ⟨r.log ++ earlier, r', List.mem_cons_of_mem _ hr', said, rest, ?_, hlog'⟩
        rw [List.append_assoc, ← hsaid, hlog]
        simp
      | cons y more =>
        obtain ⟨rfl, -⟩ := List.cons.inj hrest
        exact ⟨[], r, List.mem_cons_self, before, more, rfl, hlog⟩

/-- Whenever a script is evaluated in a conversation of bracketed rounds, the session has the bound
names with their values, and every other name as the last evaluation left it. -/
theorem globals_eq_at_eval {bindings : Bindings ω} {rounds : List (Round ω)} {s t : Session ω σ}
    (view : s.interpreter.NamesView) (hvalid : view.Valid s.state)
    (htalk : s.Talk (conversation rounds) t)
    (hrounds : ∀ r ∈ rounds, Bracketed bindings r.block.source r.log r.result)
    {before after : List (Exchange ω)} {x : Exchange ω}
    (hsplit : conversation rounds = before ++ x :: after) (heval : x.call.isEval = true) :
    ∃ u w, s.Talk before u ∧ s.LeftBy before w ∧
      ∀ name, view.globals u.state name = (bindings.get? name).or (view.globals w.state name) := by
  rw [hsplit] at htalk
  obtain ⟨u, hbefore, -⟩ := Session.talk_append_iff.1 htalk
  obtain ⟨w, later, hleft, hlater, hquiet⟩ := hbefore.exists_leftBy
  refine ⟨u, w, hbefore, hleft, fun name => ?_⟩
  obtain ⟨earlier, r, hr, said, rest, rfl, hlog⟩ := exists_round_of_conversation hsplit
  cases hname : bindings.get? name with
  | some v =>
    -- The round has registered all bindings before its evaluation.
    obtain ⟨u', hearlier, hsaid⟩ := Session.talk_append_iff.1 hbefore
    have hregistering := (hrounds r hr).registering_of_eval hlog heval
    have hregistered := hregistering.globals_registered view rfl hsaid hearlier.interpreter_eq
      (hearlier.valid view.toGlobalsView rfl hvalid) (Entries.ordered_nodup bindings.ordered)
    exact hregistered (name, v) (Entries.mem_of_find?_eq_some hname)
  | none =>
    have hunbound : name ∉ bindings.names := Entries.find?_eq_none_iff.1 hname
    have hothers : ∀ y ∈ later, ∃ other, y.call.name? = some other ∧ name ≠ other := by
      intro y hy
      obtain ⟨hmem, hnot⟩ := hquiet y hy
      have hsaid : y ∈ conversation rounds := hsplit ▸ List.mem_append_left _ hmem
      obtain ⟨r', hr', hlog'⟩ := List.mem_flatMap.1 hsaid
      obtain ⟨other, hother, hyname⟩ := (hrounds r' hr').about_names hlog' hnot
      exact ⟨other, hyname, fun heq => hunbound (heq ▸ hother)⟩
    obtain ⟨quiet, -, -, hw, -⟩ := hleft
    exact hlater.globals_of_others view hw.interpreter_eq
      (hw.valid view.toGlobalsView rfl hvalid) hothers

/-- Whenever the second pass evaluates a script, every bound name is registered with its value, and
every other name is as the evaluation before it left that name; before the first evaluation, as it
is in a new session. -/
theorem formatScripts_sight (f : Formatter ω σ) (host : Host ω) (template : String)
    (bindings : Bindings ω) {factory : Factory ω σ} {s : Session ω σ}
    (hfactory : f.factory = some factory) (hcreate : factory.create = .ok s)
    (view : s.interpreter.NamesView) (hvalid : view.Valid s.state) :
    ∃ rounds rendered t,
      blocks template.toList f.config.scriptStart.toList f.config.scriptEnd.toList =
        .ok (rounds.map Round.block) ∧
      f.formatScripts host template bindings = .ok rendered ∧
      rendered.events = (factoryCalls f.factory (rounds.map Round.block)).map Event.call ++
        (conversation rounds).flatMap Exchange.events ∧
      s.Talk (conversation rounds) t ∧
      (∀ r ∈ rounds, Bracketed bindings r.block.source r.log r.result) ∧
      ∀ before source answer during after,
        conversation rounds = before ++ .eval source answer during :: after →
        ∃ u w, s.Talk before u ∧ s.LeftBy before w ∧ ∀ name,
          view.globals u.state name = (bindings.get? name).or (view.globals w.state name) := by
  obtain ⟨rounds, rendered, hfound, hrendered, hprotocol, -⟩ :=
    exists_formatScripts f host template bindings
  rw [hfactory] at hprotocol ⊢
  obtain ⟨t, htalk, hrounds, hevents⟩ := hprotocol.exists_talk hcreate
  refine ⟨rounds, rendered, t, hfound, hrendered, hevents, htalk, hrounds, ?_⟩
  intro before source answer during after hsplit
  exact globals_eq_at_eval view hvalid htalk hrounds hsplit rfl

/-- Of three scripts the first assigns the bound name `a`, which is then not removed, and the second
assigns `c`; each is evaluated with `a` and `b` as they are bound. -/
theorem formatScripts_sight_after_assignments :
    let bindings : Bindings Empty := Bindings.ofList [("a", .int 1), ("b", .int 2)]
    let factory := rehearsedFactory (evalWords noObjects) { unset := ["a"] }
    let f : Formatter Empty (Rehearsal Empty) :=
      ⟨{ scripts := true }, ValueFormatter.display noObjects, some factory⟩
    ∃ rounds rendered t,
      f.formatScripts noObjects "<bsh>let a x</bsh><bsh>let c y</bsh><bsh>get a</bsh>" bindings =
        .ok rendered ∧
      (refusingSession ["a"]).Talk (conversation rounds) t ∧
      ∀ before source answer during after,
        conversation rounds = before ++ .eval source answer during :: after →
        ∃ u, (refusingSession ["a"]).Talk before u ∧
          Entries.find? "a" u.state.globals = some (.int 1) ∧
          Entries.find? "b" u.state.globals = some (.int 2) := by
  intro bindings factory f
  obtain ⟨rounds, rendered, t, -, hrendered, -, htalk, -, hsight⟩ :=
    formatScripts_sight f noObjects "<bsh>let a x</bsh><bsh>let c y</bsh><bsh>get a</bsh>" bindings
      (s := refusingSession ["a"]) rfl rfl (rehearsedNames _ _) Entries.ordered_nil
  refine ⟨rounds, rendered, t, hrendered, htalk, ?_⟩
  intro before source answer during after hsplit
  obtain ⟨u, w, hbefore, -, hglobals⟩ := hsight before source answer during after hsplit
  exact ⟨u, hbefore, hglobals "a", hglobals "b"⟩

end TextTemplate.Script
