import TextTemplate.Proofs.Entries
import TextTemplate.Proofs.Script.Rounds
import TextTemplate.Fixture.Rehearsal
set_option autoImplicit false

/-!
# Apart: one session for all sections, or one for each

The sections of a text share a session.  Where a script leaves its session as it found it, that
cannot be told from giving every section a session of its own (`exists_rounds_of_restored`): the
replacements are the same, and so is everything that happens but the making of sessions.  A scripted
session is such a one, since its scripts cannot change the names and the bindings are removed in the
order in which they were registered.
-/

namespace TextTemplate

variable {ω σ : Type}

/-- Does an event happen in a session, other than the making of one? -/
def Event.inSession : Event ω → Bool
  | call .create => false
  | _ => true

namespace Script

/-! ## Sections in sessions of their own -/

/-- The replacements for `blocks`, each evaluated as if it were the only one. -/
def renderBlocksApart (host : Host ω) (nullString : String) (factory : Option (Factory ω σ))
    (bindings : Bindings ω) : List Block → Logged ω (List Text.Edit)
  | [] => pure []
  | block :: blocks => do
    let edits ← renderBlocks host nullString factory bindings none [block]
    let others ← renderBlocksApart host nullString factory bindings blocks
    return edits ++ others

end Script

/-- The second pass with a new session for every section. -/
def Formatter.formatScriptsApart (f : Formatter ω σ) (host : Host ω) (template : String)
    (bindings : Bindings ω) : Except BadRange (Logged ω String) := do
  let text := template.toList
  let blocks ← Script.blocks text f.config.scriptStart.toList f.config.scriptEnd.toList
  let edits := Script.renderBlocksApart host f.config.nullString f.factory bindings blocks
  let rendered ← Text.splice text 0 edits.result
  return ⟨edits.events, String.ofList rendered⟩

namespace Script

open Fixture (Evaluator Globals scripted scriptedFactory scriptedSession)

/-- Every script leaves the session as it found it. -/
def Session.Restored (s : Session ω σ) (bindings : Bindings ω) : Prop :=
  ∀ source, (s.runScript bindings source).result.2 = s

section

variable (host : Host ω) (nullString : String) {factory : Factory ω σ} {bindings : Bindings ω}
  {s : Session ω σ}

/-- With a session that can be made, the first section makes it. -/
theorem renderBlocks_none_of_created (hcreate : factory.create = .ok s) (blocks : List Block) :
    renderBlocks host nullString (some factory) bindings none blocks =
      ⟨(factoryCalls (some factory) blocks).map Event.call ++
          (renderBlocks host nullString (some factory) bindings (some (.ok s)) blocks).events,
        (renderBlocks host nullString (some factory) bindings (some (.ok s)) blocks).result⟩ := by
  cases blocks with
  | nil => rfl
  | cons block blocks =>
    rw [renderBlocks_none]
    simp only [createSession, hcreate]
    rfl

theorem renderBlocks_singleton (hcreate : factory.create = .ok s) (block : Block) :
    renderBlocks host nullString (some factory) bindings none [block] =
      ⟨.call .create :: (s.renderScript host nullString bindings block.source).events,
        [⟨block.start, block.stop,
          (s.renderScript host nullString bindings block.source).result.1.toList⟩]⟩ := by
  simp only [renderBlocks, currentSession, createSession, hcreate, Logged.record, bind, Logged.bind,
    pure, Logged.pure, List.append_nil, List.singleton_append]

/-- Where scripts leave their session as they found it, the sections are the same rounds in one
session and in sessions of their own. -/
theorem exists_rounds_of_restored (hcreate : factory.create = .ok s)
    (hrestored : s.Restored bindings) (blocks : List Block) :
    ∃ rounds : List (Round ω), rounds.map Round.block = blocks ∧
      renderBlocks host nullString (some factory) bindings (some (.ok s)) blocks =
        ⟨(conversation rounds).flatMap Exchange.events, rounds.map (Round.edit host nullString)⟩ ∧
      renderBlocksApart host nullString (some factory) bindings blocks =
        ⟨rounds.flatMap fun r => .call .create :: r.log.flatMap Exchange.events,
          rounds.map (Round.edit host nullString)⟩ ∧
      ∀ r ∈ rounds, s.Talk r.log s := by
  induction blocks with
  | nil => exact ⟨[], rfl, rfl, rfl, by simp⟩
  | cons block blocks ih =>
    obtain ⟨rounds, rfl, hshared, hapart, htalk⟩ := ih
    obtain ⟨log, result, t, hscript, hlog, -⟩ := s.exists_runScript bindings block.source
    obtain rfl : t = s := by
      have hsame := hrestored block.source
      rw [hscript] at hsame
      exact hsame
    have hrender : t.renderScript host nullString bindings block.source =
        ⟨log.flatMap Exchange.events, resultText host nullString result, t⟩ := by
      simp [Session.renderScript, hscript, bind, Logged.bind, pure, Logged.pure]
    refine ⟨⟨block, log, result⟩ :: rounds, rfl, ?_, ?_, List.forall_mem_cons.2 ⟨hlog, htalk⟩⟩
    · simp only [renderBlocks, currentSession, hrender, hshared, bind, Logged.bind, pure,
        Logged.pure, conversation, List.flatMap_cons, List.flatMap_append, List.nil_append,
        List.append_nil]
      rfl
    · simp only [renderBlocksApart, renderBlocks_singleton host nullString hcreate, hrender, hapart,
        bind, Logged.bind, pure, Logged.pure, List.append_nil]
      rfl

theorem talk_conversation_of_restored {rounds : List (Round ω)} (h : ∀ r ∈ rounds, s.Talk r.log s) :
    s.Talk (conversation rounds) s := by
  induction rounds with
  | nil => exact .nil
  | cons r rounds ih =>
    obtain ⟨hr, hrounds⟩ := List.forall_mem_cons.1 h
    exact hr.append (ih hrounds)

end

/-- The making of sessions apart, the rounds of sessions of their own are one conversation. -/
theorem filter_inSession_apart (rounds : List (Round ω)) :
    (rounds.flatMap fun r => .call .create :: r.log.flatMap Exchange.events).filter
        Event.inSession =
      ((conversation rounds).flatMap Exchange.events).filter Event.inSession := by
  induction rounds with
  | nil => rfl
  | cons r rounds ih =>
    have hconversation : conversation (r :: rounds) = r.log ++ conversation rounds := rfl
    have hcreate : Event.inSession (.call .create : Event ω) = false := rfl
    rw [List.flatMap_cons, hconversation, List.flatMap_append, List.filter_append,
      List.filter_append, ih, List.filter_cons, hcreate]
    rfl

theorem filter_inSession_factoryCalls (factory : Option (Factory ω σ)) (blocks : List Block) :
    ((factoryCalls factory blocks).map Event.call).filter (Event.inSession (ω := ω)) = [] := by
  cases factory <;> cases blocks <;> rfl

/-! ## Scripted sessions -/

theorem scripted_setAll (evaluator : Evaluator ω) (globals : Globals ω)
    (entries : List (String × Value ω)) :
    ((⟨scripted evaluator, globals⟩ : Session ω (Globals ω)).setAll entries).result =
      (.ok (), ⟨scripted evaluator, Entries.insertAll globals entries⟩) := by
  induction entries generalizing globals with
  | nil => rfl
  | cons entry entries ih => exact ih (Entries.insert entry.1 entry.2 globals)

theorem scripted_unsetAll (evaluator : Evaluator ω) (globals : Globals ω) (names : List String) :
    ((⟨scripted evaluator, globals⟩ : Session ω (Globals ω)).unsetAll names).result =
      (.ok (),
        ⟨scripted evaluator, names.foldl (fun globals name => globals.erase name) globals⟩) := by
  induction names generalizing globals with
  | nil => rfl
  | cons name names ih => exact ih (Entries.erase name globals)

/-- The names of a scripted session are registered and removed again around every script. -/
theorem scriptedSession_restored (evaluator : Evaluator ω) (bindings : Bindings ω) :
    (scriptedSession evaluator).Restored bindings := by
  intro source
  have hset : Entries.insertAll [] bindings.entries = bindings.entries :=
    Entries.ofList_eq_self bindings.ordered
  have hunset : bindings.names.foldl (fun globals name => Entries.erase name globals)
      bindings.entries = [] := Entries.foldl_erase_keys bindings.entries
  have heval : ((⟨scripted evaluator, bindings.entries⟩ : Session ω (Globals ω)).eval
      source).result.2 = ⟨scripted evaluator, bindings.entries⟩ := rfl
  simp only [Session.runScript, Logged.bind_result, scriptedSession, scripted_setAll, hset,
    Session.evalAfter, heval, scripted_unsetAll, hunset]
  split <;> rfl

/-- Scripts that cannot change the names cannot tell a shared session from one of their own: the
text is the same, and so is everything that happens in sessions.  Between the sections, before the
first and after the last, the shared session has no names. -/
theorem formatScripts_eq_apart (evaluator : Evaluator ω) (config : Config)
    (format : ValueFormatter ω) (host : Host ω) (template : String) (bindings : Bindings ω) :
    let f : Formatter ω (Globals ω) := ⟨config, format, some (scriptedFactory evaluator)⟩
    let s : Session ω (Globals ω) := scriptedSession evaluator
    ∃ rounds shared apart,
      blocks template.toList config.scriptStart.toList config.scriptEnd.toList =
        .ok (rounds.map Round.block) ∧
      f.formatScripts host template bindings = .ok shared ∧
      f.formatScriptsApart host template bindings = .ok apart ∧
      shared.result = apart.result ∧
      shared.events.filter Event.inSession = apart.events.filter Event.inSession ∧
      shared.events = (factoryCalls f.factory (rounds.map Round.block)).map Event.call ++
        (conversation rounds).flatMap Exchange.events ∧
      ∀ earlier later, rounds = earlier ++ later →
        ∃ t, s.Talk (conversation earlier) t ∧ t.state = [] := by
  intro f s
  have hcreate : (scriptedFactory evaluator).create = .ok s := rfl
  obtain ⟨found, hfound, hsplice⟩ := exists_blocks_spliced template.toList
    config.scriptStart.toList config.scriptEnd.toList
  obtain ⟨rounds, rfl, hshared, hapart, htalk⟩ := exists_rounds_of_restored host config.nullString
    hcreate (scriptedSession_restored evaluator bindings) found
  obtain ⟨out, hout⟩ := hsplice _ (map_bounds_edit host config.nullString rounds)
  have hsplice := Text.splice_eq_ok_iff.2 hout
  let shared : Logged ω String :=
    ⟨(factoryCalls f.factory (rounds.map Round.block)).map Event.call ++
      (conversation rounds).flatMap Exchange.events, String.ofList out⟩
  let apart : Logged ω String :=
    ⟨rounds.flatMap fun r => .call .create :: r.log.flatMap Exchange.events, String.ofList out⟩
  refine ⟨rounds, shared, apart, hfound, ?_, ?_, rfl, ?_, rfl, ?_⟩
  · simp only [Formatter.formatScripts, f, hfound,
      renderBlocks_none_of_created host config.nullString hcreate, hshared, hsplice, bind,
      Except.bind, pure, Except.pure]
    rfl
  · simp only [Formatter.formatScriptsApart, f, hfound, hapart, hsplice, bind, Except.bind, pure,
      Except.pure]
    rfl
  · rw [List.filter_append, filter_inSession_factoryCalls, filter_inSession_apart]
    rfl
  · rintro earlier later rfl
    have hearlier : ∀ r ∈ earlier, s.Talk r.log s := fun r hr =>
      htalk r (List.mem_append_left later hr)
    exact ⟨s, talk_conversation_of_restored hearlier, rfl⟩

end Script

end TextTemplate
