import TextTemplate.Formatter
import TextTemplate.Proofs.Script.Bracketing
import TextTemplate.Proofs.Script.Sections
set_option autoImplicit false

/-!
# Rounds: the second pass as one conversation

Every section of a text is a round: what was said to the session for it, and what came of that.
`Protocol` tells which rounds and which events a pass can have, depending on where its session comes
from.  A pass without sections asks for no session; any other pass asks once, and its rounds share
what it got, be that a session or an error.
-/

namespace TextTemplate.Script

variable {ω σ : Type}

/-- A section, the exchanges that it took, and its result. -/
structure Round (ω : Type) where
  block : Block
  log : List (Exchange ω)
  result : Except Error (Value ω)

namespace Round

/-- The round as an edit of the text: in place of the section stands the marker of the error, or
the text of the value, the absent one having a text of its own. -/
def edit (host : Host ω) (nullString : String) (r : Round ω) : Text.Edit :=
  ⟨r.block.start, r.block.stop, (resultText host nullString r.result).toList⟩

/-- The round of a section for which there was no session. -/
def skipped (e : Error) (block : Block) : Round ω := ⟨block, [], .error e⟩

end Round

/-- Everything that is said in some rounds, from first to last. -/
def conversation (rounds : List (Round ω)) : List (Exchange ω) := rounds.flatMap Round.log

/-- The rounds and the events that a pass can have. -/
inductive Protocol (bindings : Bindings ω) :
    Option (Factory ω σ) → List (Round ω) → List (Event ω) → Prop where
  /-- Without sections nothing happens. -/
  | idle {factory : Option (Factory ω σ)} : Protocol bindings factory [] []
  /-- Without a factory nothing can be called. -/
  | unconfigured {blocks : List Block} :
      Protocol bindings none
        (blocks.map (Round.skipped (.unavailable "no interpreter configured"))) []
  /-- A factory that fails is called once, and nothing else is. -/
  | uncreated {factory : Factory ω σ} {blocks : List Block} {e : Error} (nonempty : blocks ≠ [])
      (create : factory.create = .error e) :
      Protocol bindings (some factory) (blocks.map (Round.skipped e)) [.call .create]
  /-- A session is made once, and every round brackets its script in it. -/
  | created {factory : Factory ω σ} {s t : Session ω σ} {rounds : List (Round ω)}
      (nonempty : rounds ≠ []) (create : factory.create = .ok s)
      (talk : s.Talk (conversation rounds) t)
      (bracketed : ∀ r ∈ rounds, Bracketed bindings r.block.source r.log r.result) :
      Protocol bindings (some factory) rounds
        (.call .create :: (conversation rounds).flatMap Exchange.events)

/-- The calls of the factory for some sections: one for all of them together. -/
def factoryCalls : Option (Factory ω σ) → List Block → List (Call ω)
  | some _, _ :: _ => [.create]
  | _, _ => []

namespace Protocol

variable {factory : Option (Factory ω σ)} {bindings : Bindings ω} {rounds : List (Round ω)}
  {events : List (Event ω)}

/-- With a session that could be made, everything that happens is its making and the rounds. -/
theorem exists_talk {factory : Factory ω σ} {s : Session ω σ} {events : List (Event ω)}
    (h : Protocol bindings (some factory) rounds events) (hcreate : factory.create = .ok s) :
    ∃ t, s.Talk (conversation rounds) t ∧
      (∀ r ∈ rounds, Bracketed bindings r.block.source r.log r.result) ∧
      events = (factoryCalls (some factory) (rounds.map Round.block)).map Event.call ++
        (conversation rounds).flatMap Exchange.events := by
  cases h with
  | idle => exact ⟨s, .nil, by simp, rfl⟩
  | uncreated nonempty create =>
    rw [hcreate] at create
    cases create
  | @created _ s' t rounds nonempty create talk bracketed =>
    obtain rfl : s = s' := Except.ok.inj (hcreate.symm.trans create)
    obtain ⟨r, rounds, rfl⟩ := List.exists_cons_of_ne_nil nonempty
    exact ⟨t, talk, bracketed, rfl⟩

end Protocol

section

variable (host : Host ω) (nullString : String) (factory : Option (Factory ω σ))
  (bindings : Bindings ω)

/-- Once a session could not be made, every section is replaced by the marker of why. -/
theorem renderBlocks_of_error (e : Error) (blocks : List Block) :
    renderBlocks host nullString factory bindings (some (.error e)) blocks =
      ⟨[], (blocks.map (Round.skipped e)).map (Round.edit host nullString)⟩ := by
  induction blocks with
  | nil => rfl
  | cons block blocks ih =>
    simp only [renderBlocks, currentSession, ih, bind, Logged.bind, pure, Logged.pure]
    rfl

/-- In a session every section is a round. -/
theorem exists_renderBlocks (s : Session ω σ) (blocks : List Block) :
    ∃ rounds t, rounds.map Round.block = blocks ∧
      renderBlocks host nullString factory bindings (some (.ok s)) blocks =
        ⟨(conversation rounds).flatMap Exchange.events, rounds.map (Round.edit host nullString)⟩ ∧
      s.Talk (conversation rounds) t ∧
      ∀ r ∈ rounds, Bracketed bindings r.block.source r.log r.result := by
  induction blocks generalizing s with
  | nil => exact ⟨[], s, rfl, rfl, .nil, by simp⟩
  | cons block blocks ih =>
    obtain ⟨log, result, u, hscript, htalk, hbracketed⟩ :=
      s.exists_renderScript host nullString bindings block.source
    obtain ⟨rounds, t, rfl, hblocks, htalk', hrounds⟩ := ih u
    refine ⟨⟨block, log, result⟩ :: rounds, t, rfl, ?_, htalk.append htalk', ?_⟩
    · simp only [renderBlocks, currentSession, hscript, hblocks, bind, Logged.bind, pure,
        Logged.pure, conversation, List.flatMap_cons, List.flatMap_append, List.nil_append,
        List.append_nil]
      rfl
    · simpa using ⟨hbracketed, hrounds⟩

/-- The first section asks for the session of all. -/
theorem renderBlocks_none (block : Block) (blocks : List Block) :
    renderBlocks host nullString factory bindings none (block :: blocks) =
      (createSession factory >>= fun session =>
        renderBlocks host nullString factory bindings (some session) (block :: blocks)) := rfl

/-- Whatever the sections are, rendering them keeps to the protocol. -/
theorem exists_protocol (blocks : List Block) :
    ∃ rounds events, rounds.map Round.block = blocks ∧
      renderBlocks host nullString factory bindings none blocks =
        ⟨events, rounds.map (Round.edit host nullString)⟩ ∧
      Protocol bindings factory rounds events := by
  cases blocks with
  | nil => exact ⟨[], [], rfl, rfl, .idle⟩
  | cons block blocks =>
    have hskipped : ∀ e : Error,
        ((block :: blocks).map (Round.skipped (ω := ω) e)).map Round.block = block :: blocks := by
      intro e
      rw [List.map_map]
      exact List.map_id _
    rw [renderBlocks_none]
    cases factory with
    | none =>
      refine ⟨_, [], hskipped (.unavailable "no interpreter configured"), ?_, .unconfigured⟩
      simp only [createSession, renderBlocks_of_error, bind, Logged.bind, pure, Logged.pure,
        List.nil_append]
    | some factory =>
      cases hcreate : factory.create with
      | error e =>
        refine ⟨_, [.call .create], hskipped e, ?_, .uncreated (List.cons_ne_nil _ _) hcreate⟩
        simp only [createSession, hcreate, renderBlocks_of_error, Logged.record, bind, Logged.bind,
          pure, Logged.pure, List.append_nil]
      | ok s =>
        obtain ⟨rounds, t, hblocks, hrender, htalk, hrounds⟩ :=
          exists_renderBlocks host nullString (some factory) bindings s (block :: blocks)
        have hnonempty : rounds ≠ [] := by
          rintro rfl
          exact List.cons_ne_nil _ _ hblocks.symm
        refine ⟨rounds, _, hblocks, ?_, .created hnonempty hcreate htalk hrounds⟩
        simp only [createSession, hcreate, hrender, Logged.record, bind, Logged.bind, pure,
          Logged.pure, List.append_nil, List.singleton_append]

end

/-- A round replaces its section. -/
theorem map_bounds_edit (host : Host ω) (nullString : String) (rounds : List (Round ω)) :
    (rounds.map (Round.edit host nullString)).map Text.Edit.bounds =
      (rounds.map Round.block).map Block.bounds := by
  rw [List.map_map, List.map_map]
  rfl

/-- The second pass answers the template with the edits of its sections carried out. -/
theorem formatScripts_eq_of_spliced {f : Formatter ω σ} {host : Host ω} {template : String}
    {bindings : Bindings ω} {found : List Block} {out : Text}
    (hfound : blocks template.toList f.config.scriptStart.toList f.config.scriptEnd.toList =
      .ok found)
    (hout : Text.Spliced template.toList 0
      (renderBlocks host f.config.nullString f.factory bindings none found).result out) :
    f.formatScripts host template bindings =
      .ok ⟨(renderBlocks host f.config.nullString f.factory bindings none found).events,
        String.ofList out⟩ := by
  have hsplice := Text.splice_eq_ok_iff.2 hout
  simp only [Formatter.formatScripts, hfound, hsplice, bind, Except.bind, pure, Except.pure]

/-- The sections of a template are rendered in rounds, and the edits that these are can be carried
out. -/
theorem exists_rounds (f : Formatter ω σ) (host : Host ω) (template : String)
    (bindings : Bindings ω) :
    ∃ found rounds out,
      let rendered := renderBlocks host f.config.nullString f.factory bindings none found
      blocks template.toList f.config.scriptStart.toList f.config.scriptEnd.toList = .ok found ∧
      rounds.map Round.block = found ∧
      Protocol bindings f.factory rounds rendered.events ∧
      rendered.result = rounds.map (Round.edit host f.config.nullString) ∧
      Text.Spliced template.toList 0 rendered.result out := by
  obtain ⟨found, hfound, hsplice⟩ := exists_blocks_spliced template.toList
    f.config.scriptStart.toList f.config.scriptEnd.toList
  obtain ⟨rounds, events, rfl, hrender, hprotocol⟩ :=
    exists_protocol host f.config.nullString f.factory bindings found
  obtain ⟨out, hout⟩ := hsplice _ (map_bounds_edit host f.config.nullString rounds)
  refine ⟨_, rounds, out, hfound, rfl, ?_⟩
  rw [hrender]
  exact ⟨hprotocol, rfl, hout⟩

/-- The second pass of a template replaces every section by its round. -/
theorem exists_formatScripts (f : Formatter ω σ) (host : Host ω) (template : String)
    (bindings : Bindings ω) :
    ∃ rounds rendered,
      blocks template.toList f.config.scriptStart.toList f.config.scriptEnd.toList =
        .ok (rounds.map Round.block) ∧
      f.formatScripts host template bindings = .ok rendered ∧
      Protocol bindings f.factory rounds rendered.events ∧
      Text.Spliced template.toList 0 (rounds.map (Round.edit host f.config.nullString))
        rendered.result.toList := by
  obtain ⟨-, rounds, out, hfound, rfl, hprotocol, hedits, hout⟩ :=
    exists_rounds f host template bindings
  refine ⟨rounds, _, hfound, formatScripts_eq_of_spliced hfound hout, hprotocol, ?_⟩
  rw [String.toList_ofList, ← hedits]
  exact hout

end TextTemplate.Script
