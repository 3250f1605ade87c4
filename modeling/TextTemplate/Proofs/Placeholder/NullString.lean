import TextTemplate.Proofs.Path.Walk
import TextTemplate.Proofs.Placeholder.Selection
import TextTemplate.Proofs.Value.Part
set_option autoImplicit false

/-!
# NullString: the text for the absent value is only ever inserted

A placeholder that names a binding directly is replaced by the null string if the binding is absent.
`Shows` says what a placeholder is replaced by, and this is the only case in which the null string
occurs: a path that ends at the absent value is replaced by nothing, and an absent value in a list
or a map is written `null`.  Which placeholders are replaced does not depend on the null string, nor
does anything that is accessed on the way, so the first pass answers texts that are fixed with the
null string between them (`formatProperties_inserts_nullString`).
-/

namespace TextTemplate

open Text

variable {ω σ : Type}

/-- The formatter with the given null string, and every other value as its text. -/
def Formatter.displaying (f : Formatter ω σ) (host : Host ω) (nullString : String) :
    Formatter ω σ :=
  { f with config := { f.config with nullString }, format := ValueFormatter.display host }

namespace Placeholder

/-- Does the placeholder name a binding directly, one that is absent? -/
def Span.namesAbsent (span : Span) (bindings : Bindings ω) : Bool :=
  match span.content with
  | .direct name => (bindings.get? name).any Value.isNull
  | .dotted _ _ => false

/-- What a placeholder is replaced by. -/
inductive Span.Shows (ss : List (Strategy ω)) (host : Host ω) (bindings : Bindings ω)
    (nullString : String) (span : Span) : String → Prop where
  /-- the null string, for a binding that is absent -/
  | absent {name : String} {v : Value ω} (content_eq : span.content = .direct name)
      (bound : bindings.get? name = some v) (null : v.isNull = true) :
      Shows ss host bindings nullString span nullString
  /-- the text of a binding, with `null` for everything absent in it -/
  | binding {name : String} {v : Value ω} (content_eq : span.content = .direct name)
      (bound : bindings.get? name = some v) (present : v.isNull = false) :
      Shows ss host bindings nullString span (v.spelled.display host)
  /-- nothing, for a path that ends at the absent value -/
  | nothing {root continuation : String} {v : Value ω}
      (content_eq : span.content = .dotted root continuation) (bound : bindings.get? root = some v)
      (ends : Path.Ends ss v (Path.names continuation) .absent) :
      Shows ss host bindings nullString span ""
  /-- the text of the value at the end of a path, with `null` for everything absent in it -/
  | member {root continuation : String} {v w : Value ω}
      (content_eq : span.content = .dotted root continuation) (bound : bindings.get? root = some v)
      (ends : Path.Ends ss v (Path.names continuation) (.present w)) :
      Shows ss host bindings nullString span (w.spelled.display host)

/-! ## What a placeholder is replaced by -/

namespace Resolver

variable {r : Resolver ω} {bindings : Bindings ω} {span : Span}

theorem fate_direct {name : String} (h : span.content = .direct name) :
    (r.fate bindings span).replacement? =
      (bindings.get? name).map fun v => r.format name v r.nullString := by
  simp only [fate, resolve, h]
  cases bindings.get? name <;> rfl

theorem fate_dotted {root continuation : String} {v : Value ω}
    (h : span.content = .dotted root continuation) (hroot : bindings.get? root = some v)
    {outcome : Path.Outcome ω}
    (hends : Path.Ends r.strategies v (Path.names continuation) outcome) :
    r.fate bindings span =
      match outcome with
      | .present w => .resolved (r.format continuation w r.nullString)
      | .absent => .resolvedNull
      | .missing _ => .unresolved := by
  simp only [fate, resolve, h, hroot, Path.resolve, Logged.bind_result, hends.walk_result]
  cases outcome <;> rfl

theorem fate_dotted_of_unbound {root continuation : String}
    (h : span.content = .dotted root continuation) (hroot : bindings.get? root = none) :
    r.fate bindings span = .unresolved := by
  simp only [fate, resolve, h, hroot]
  rfl

end Resolver

section

variable (f : Formatter ω σ) (host : Host ω) (bindings : Bindings ω)

/-- What a formatter makes of a placeholder is what the placeholder shows. -/
theorem replacement?_eq_some_iff (nullString : String) (span : Span) (text : String) :
    (((f.displaying host nullString).resolver host).fate bindings span).replacement? = some text ↔
      span.Shows (f.config.strategies host) host bindings nullString text := by
  constructor
  · intro h
    cases hcontent : span.content with
    | direct name =>
      rw [Resolver.fate_direct hcontent] at h
      obtain ⟨v, hbound, htext⟩ := Option.map_eq_some_iff.1 h
      replace htext : v.textOr host nullString = text := htext
      cases hv : v.isNull with
      | false =>
        rw [Value.textOr_of_present hv, ← Value.display_spelled] at htext
        exact htext ▸ .binding hcontent hbound hv
      | true =>
        rw [Value.textOr_of_absent hv] at htext
        exact htext ▸ .absent hcontent hbound hv
    | dotted root continuation =>
      cases hroot : bindings.get? root with
      | none =>
        rw [Resolver.fate_dotted_of_unbound hcontent hroot] at h
        cases h
      | some v =>
        obtain ⟨outcome, hends⟩ := Path.exists_ends (f.config.strategies host) v
          (Path.names continuation)
        rw [Resolver.fate_dotted hcontent hroot hends] at h
        cases outcome with
        | missing property => cases h
        | absent =>
          obtain rfl := Option.some.inj h
          exact .nothing hcontent hroot hends
        | present w =>
          replace h : w.textOr host nullString = text := Option.some.inj h
          cases hends with | present leads present =>
          rw [Value.textOr_of_present present, ← Value.display_spelled] at h
          exact h ▸ .member hcontent hroot (.present leads present)
  · intro h
    cases h with
    | absent content_eq bound null =>
      rw [Resolver.fate_direct content_eq, bound]
      exact congrArg some (Value.textOr_of_absent null nullString)
    | binding content_eq bound present =>
      rw [Resolver.fate_direct content_eq, bound]
      rw [Value.display_spelled]
      exact congrArg some (Value.textOr_of_present present nullString)
    | nothing content_eq bound ends =>
      rw [Resolver.fate_dotted content_eq bound ends]
      rfl
    | member content_eq bound ends =>
      rw [Resolver.fate_dotted content_eq bound ends]
      cases ends with | present leads present =>
      rw [Value.display_spelled]
      exact congrArg some (Value.textOr_of_present present nullString)

end

/-! ## Other null strings -/

/-- The replacement with another null string. -/
def Replacement.inserting (bindings : Bindings ω) (nullString : String) (r : Replacement) :
    Replacement :=
  ⟨r.span, if r.span.namesAbsent bindings then nullString else r.text⟩

section

variable {ss : List (Strategy ω)} {host : Host ω} {bindings : Bindings ω}

/-- With another null string a placeholder shows this one, or what it showed before. -/
theorem Span.Shows.inserting {nullString text : String} {span : Span}
    (h : span.Shows ss host bindings nullString text) (nullString' : String) :
    span.Shows ss host bindings nullString'
      (if span.namesAbsent bindings then nullString' else text) := by
  cases h with
  | absent content_eq bound null =>
    have habsent : span.namesAbsent bindings = true := by
      simp only [namesAbsent, content_eq, bound, Option.any_some, null]
    rw [if_pos habsent]
    exact .absent content_eq bound null
  | binding content_eq bound present =>
    have hpresent : ¬ span.namesAbsent bindings = true := by
      simp only [namesAbsent, content_eq, bound, Option.any_some, present, Bool.false_eq_true,
        not_false_eq_true]
    rw [if_neg hpresent]
    exact .binding content_eq bound present
  | nothing content_eq bound ends =>
    have hdotted : ¬ span.namesAbsent bindings = true := by
      simp only [namesAbsent, content_eq, Bool.false_eq_true, not_false_eq_true]
    rw [if_neg hdotted]
    exact .nothing content_eq bound ends
  | member content_eq bound ends =>
    have hdotted : ¬ span.namesAbsent bindings = true := by
      simp only [namesAbsent, content_eq, Bool.false_eq_true, not_false_eq_true]
    rw [if_neg hdotted]
    exact .member content_eq bound ends

/-- Where one fate of the placeholders differs from another only in what some are replaced by, the
same ones are taken. -/
theorem leftmost_eq_map {fate fate' : Span → Resolution} {change : Span → String → String}
    (h : ∀ span, (fate' span).replacement? = (fate span).replacement?.map (change span))
    (copied : Nat) (spans : List Span) :
    leftmost fate' copied spans =
      (leftmost fate copied spans).map fun r => ⟨r.span, change r.span r.text⟩ := by
  induction spans generalizing copied with
  | nil => rfl
  | cons span spans ih =>
    rw [leftmost, leftmost, h]
    split
    · exact ih copied
    · cases (fate span).replacement? with
      | none => exact ih copied
      | some text => simp only [Option.map_some, List.map_cons, ih]

end

namespace Resolver

variable {r r' : Resolver ω} {bindings : Bindings ω}

/-- The members that are asked for depend on the strategies alone. -/
theorem resolve_events_of_strategies_eq (h : r'.strategies = r.strategies) (span : Span) :
    (r'.resolve bindings span).events = (r.resolve bindings span).events := by
  obtain ⟨content, opening, closing⟩ := span
  cases content with
  | direct name =>
    simp only [resolve]
    cases bindings.get? name <;> rfl
  | dotted root continuation =>
    simp only [resolve]
    cases bindings.get? root with
    | none => rfl
    | some v =>
      rw [Logged.bind_events, Logged.bind_events, h]
      cases (Path.resolve r.strategies v continuation).result <;> rfl

/-- Placeholders of which the same ones are replaced ask for the same members. -/
theorem select_events_eq (hstrategies : r'.strategies = r.strategies)
    (hreplaced : ∀ span, (r'.fate bindings span).replacement?.isSome =
      (r.fate bindings span).replacement?.isSome) (copied : Nat) (spans : List Span) :
    (r'.select bindings copied spans).events = (r.select bindings copied spans).events := by
  induction spans generalizing copied with
  | nil => rfl
  | cons span spans ih =>
    have hspan := hreplaced span
    unfold fate at hspan
    rw [select, select]
    split
    · exact ih copied
    · rw [Logged.bind_events, Logged.bind_events, resolve_events_of_strategies_eq hstrategies]
      congr 1
      cases h : (r.resolve bindings span).result.replacement? with
      | none =>
        rw [h, Option.isSome_none, Option.isSome_eq_false_iff, Option.isNone_iff_eq_none] at hspan
        rw [hspan]
        exact ih copied
      | some text =>
        rw [h, Option.isSome_some, Option.isSome_iff_exists] at hspan
        obtain ⟨text', h'⟩ := hspan
        simp only [h', Logged.bind_events, ih, Logged.pure_events]

end Resolver

section

variable (f : Formatter ω σ) (host : Host ω) (bindings : Bindings ω)

/-- The fate of a placeholder with another null string. -/
theorem replacement?_inserting (nullString nullString' : String) (span : Span) :
    (((f.displaying host nullString').resolver host).fate bindings span).replacement? =
      (((f.displaying host nullString).resolver host).fate bindings span).replacement?.map
        fun text => if span.namesAbsent bindings then nullString' else text := by
  have hshows := replacement?_eq_some_iff f host bindings
  cases h : (((f.displaying host nullString).resolver host).fate bindings span).replacement? with
  | some text =>
    have hspan := (hshows nullString span text).1 h
    exact (hshows nullString' span _).2 (hspan.inserting nullString')
  | none =>
    rw [Option.map_none, Option.eq_none_iff_forall_ne_some]
    intro text' h'
    have hspan := (hshows nullString' span text').1 h'
    rw [(hshows nullString span _).2 (hspan.inserting nullString)] at h
    cases h

/-- The same placeholders are replaced with another null string. -/
theorem leftmost_inserting (nullString nullString' : String) (copied : Nat) (spans : List Span) :
    leftmost (((f.displaying host nullString').resolver host).fate bindings) copied spans =
      (leftmost (((f.displaying host nullString).resolver host).fate bindings) copied spans).map
        (Replacement.inserting bindings nullString') :=
  leftmost_eq_map (replacement?_inserting f host bindings nullString nullString') copied spans

/-- The same members are asked for with another null string. -/
theorem select_events_displaying (nullString nullString' : String) (copied : Nat)
    (spans : List Span) :
    (((f.displaying host nullString').resolver host).select bindings copied spans).events =
      (((f.displaying host nullString).resolver host).select bindings copied spans).events := by
  have hstrategies : ((f.displaying host nullString').resolver host).strategies =
      ((f.displaying host nullString).resolver host).strategies := rfl
  refine Resolver.select_events_eq hstrategies (fun span => ?_) copied spans
  rw [replacement?_inserting f host bindings nullString nullString', Option.isSome_map]

end

/-! ## Pieces -/

/-- The null strings in a text with the edits carried out stand between pieces that are the same for
every null string. -/
theorem exists_pieces {t out : Text} {copied : Nat} {selected : List Replacement}
    (bindings : Bindings ω) (h : Spliced t copied (selected.map Replacement.edit) out) :
    ∃ piece pieces, pieces.length = selected.countP (·.span.namesAbsent bindings) ∧
      ∀ nullString : String,
        Spliced t copied ((selected.map (Replacement.inserting bindings nullString)).map
          Replacement.edit) (nullString.intercalate (piece :: pieces)).toList := by
  induction selected generalizing copied out with
  | nil =>
    refine ⟨String.ofList out, [], rfl, fun nullString => ?_⟩
    simpa using h
  | cons r selected ih =>
    rw [List.map_cons] at h
    cases h with
    | @edit _ before gap rest out e edits text_eq copied_eq start_eq tail =>
      obtain ⟨piece, pieces, hlength, htail⟩ := ih tail
      by_cases habsent : r.span.namesAbsent bindings = true
      · -- The null string stands between the gap and the first piece of the rest.
        refine ⟨String.ofList gap, piece :: pieces, ?_, fun nullString => ?_⟩
        · simp only [List.length_cons, hlength, List.countP_cons, habsent, if_true]
        · have hinserting : r.inserting bindings nullString = ⟨r.span, nullString⟩ := by
            rw [Replacement.inserting, if_pos habsent]
          have hspliced := Spliced.edit (e := Replacement.edit ⟨r.span, nullString⟩)
            text_eq copied_eq start_eq (htail nullString)
          rw [List.map_cons, List.map_cons, hinserting, String.intercalate_cons_cons,
            String.toList_append, String.toList_append, String.toList_ofList]
          exact hspliced
      · -- The replacement is the same for every null string and joins the gap and the first piece.
        refine ⟨String.ofList gap ++ r.text ++ piece, pieces, ?_, fun nullString => ?_⟩
        · simp only [hlength, List.countP_cons, habsent, Bool.false_eq_true, if_false,
            Nat.add_zero]
        · have hinserting : r.inserting bindings nullString = r := by
            rw [Replacement.inserting, if_neg habsent]
          have hspliced := Spliced.edit text_eq copied_eq start_eq (htail nullString)
          rw [List.map_cons, List.map_cons, hinserting, String.intercalate_cons_append,
            String.toList_append, String.toList_append, String.toList_ofList]
          exact hspliced

/-! ## Main statement -/

/-- The null string is only ever inserted.  A template has pieces that do not depend on it, and the
first pass answers these pieces with the null string between them, whatever it is and whatever it
looks like.  It is inserted once for each replaced placeholder that names an absent binding; which
placeholders are replaced, and which members are asked for on the way, does not depend on the null
string either.  What any other placeholder shows has nothing to do with it: it is nothing if the
path ends at the absent value, and otherwise the text of a value in which `null` stands for
everything absent. -/
theorem formatProperties_inserts_nullString (f : Formatter ω σ) (host : Host ω) (template : String)
    (bindings : Bindings ω) :
    (∃ found replaced pieces events, spans template.toList = .ok found ∧
      pieces.length = replaced.countP (fun span => span.namesAbsent bindings) + 1 ∧
      ∀ nullString : String, ∃ selected,
        (f.displaying host nullString).formatProperties host template bindings =
          .ok ⟨events, nullString.intercalate pieces⟩ ∧
        selected.map (·.span) = replaced ∧
        Selection (((f.displaying host nullString).resolver host).fate bindings) found selected ∧
        Spliced template.toList 0 (selected.map Replacement.edit)
          (nullString.intercalate pieces).toList ∧
        ∀ span text,
          (((f.displaying host nullString).resolver host).fate bindings span).replacement? =
              some text ↔
            span.Shows (f.config.strategies host) host bindings nullString text) ∧
    ∀ (v : Value ω) position, v.spelled.at? position ≠ some .null := by
  obtain ⟨found, hspans, hsorted, hmem⟩ := exists_spans template.toList
  have hstop : ∀ s ∈ found, s.opening < s.stop := fun s hs => ((hmem s).1 hs).opening_lt_stop
  let resolver := fun nullString => (f.displaying host nullString).resolver host
  let selected := fun nullString => leftmost ((resolver nullString).fate bindings) 0 found
  have hselection : ∀ nullString,
      SelectionFrom ((resolver nullString).fate bindings) 0 found (selected nullString) :=
    fun nullString => (selectionFrom_iff hstop hsorted).2 rfl
  -- One null string is as good as any other to find the pieces.
  obtain ⟨out, hout⟩ := (hselection "").exists_spliced fun span hspan => (hmem span).1 hspan
  obtain ⟨piece, pieces, hlength, hpieces⟩ := exists_pieces bindings hout
  have hselected : ∀ nullString,
      selected nullString = (selected "").map (Replacement.inserting bindings nullString) :=
    fun nullString => leftmost_inserting f host bindings "" nullString 0 found
  refine ⟨⟨found, (selected "").map (·.span), piece :: pieces,
    ((resolver "").select bindings 0 found).events, hspans, ?_, ?_⟩, ?_⟩
  · rw [List.length_cons, hlength, List.countP_map]
    rfl
  · intro nullString
    have hspliced := hpieces nullString
    rw [← hselected] at hspliced
    refine ⟨selected nullString, ?_, ?_, selectionFrom_zero_iff.1 (hselection nullString),
      hspliced, replacement?_eq_some_iff f host bindings nullString⟩
    · rw [← Resolver.select_result] at hspliced
      rw [formatProperties_eq_of_spliced hspans hspliced, String.ofList_toList,
        select_events_displaying f host bindings "" nullString]
    · rw [hselected, List.map_map]
      rfl
  · exact Value.at?_spelled_ne_null

example :
    ((Formatter.default Fixture.host : Formatter Fixture.Object Unit).displaying Fixture.host
        "$\x7bl\x7d").formatProperties Fixture.host "$\x7ba\x7d, $\x7bm.x\x7d, $\x7bl\x7d"
        (Bindings.ofList [("a", .null), ("l", .list [.null]), ("m", .map [("x", .null)])]) =
      .ok ⟨[], "$\x7bl\x7d, , [null]"⟩ := by
  rfl

end Placeholder

end TextTemplate
