import Mathlib.Data.List.Chain
import TextTemplate.Formatter
import TextTemplate.Proofs.Placeholder.Scan
import TextTemplate.Proofs.Text.Splice
set_option autoImplicit false

/-!
# Selection: which placeholders are replaced

The placeholders of a template may overlap, and any of them may stay as it is written.  A
`Selection` says which of them are replaced, without reference to a cursor: they do not overlap,
each has a replacement, and whatever is not replaced has none or opens inside one that is.  Every
list of placeholders has one selection (`selectionFrom_iff`), which makes the first placeholder with
a replacement win, and the first pass carries out just that one.
-/

namespace TextTemplate.Placeholder

open Text

/-- A placeholder and the text that takes its place. -/
structure Replacement where
  span : Span
  text : String
  deriving DecidableEq, Repr, Inhabited

/-- The replacement as an edit of the template. -/
def Replacement.edit (r : Replacement) : Edit := ⟨r.span.opening, r.span.stop, r.text.toList⟩

theorem Resolution.replacement?_eq_none_iff {r : Resolution} :
    r.replacement? = none ↔ r = .unresolved := by
  cases r <;> simp [replacement?]

/-- `selected` is what is replaced of the placeholders `spans`, given the fate of each. -/
structure Selection (fate : Span → Resolution) (spans : List Span) (selected : List Replacement) :
    Prop where
  /-- the replaced placeholders are some of `spans`, in the same order -/
  sublist : (selected.map (·.span)).Sublist spans
  /-- none opens before the one before it is closed -/
  apart : selected.IsChain fun r r' => r.span.stop ≤ r'.span.opening
  /-- each is replaced by what it resolves to -/
  resolved : ∀ r ∈ selected, (fate r.span).replacement? = some r.text
  /-- each of the others does not resolve or opens inside a replaced one -/
  passed : ∀ span ∈ spans, span ∉ selected.map (·.span) →
    fate span = .unresolved ∨ ∃ r ∈ selected, r.span.opening < span.opening ∧
      span.opening < r.span.stop

/-- A selection seen from byte `copied`: whatever opens before it is passed over as well. -/
structure SelectionFrom (fate : Span → Resolution) (copied : Nat) (spans : List Span)
    (selected : List Replacement) : Prop where
  sublist : (selected.map (·.span)).Sublist spans
  apart : InOrder copied (selected.map Replacement.edit)
  resolved : ∀ r ∈ selected, (fate r.span).replacement? = some r.text
  passed : ∀ span ∈ spans, span ∉ selected.map (·.span) →
    span.opening < copied ∨ fate span = .unresolved ∨
      ∃ r ∈ selected, r.span.opening < span.opening ∧ span.opening < r.span.stop

theorem inOrder_cons_iff {copied : Nat} {r : Replacement} {selected : List Replacement} :
    InOrder copied ((r :: selected).map Replacement.edit) ↔ copied ≤ r.span.opening ∧
      (r :: selected).IsChain fun r r' => r.span.stop ≤ r'.span.opening := by
  induction selected generalizing copied r with
  | nil => simp [InOrder, Replacement.edit]
  | cons r' selected ih =>
    rw [List.map_cons, InOrder, ih, List.isChain_cons_cons]
    rfl

theorem selectionFrom_zero_iff {fate : Span → Resolution} {spans : List Span}
    {selected : List Replacement} :
    SelectionFrom fate 0 spans selected ↔ Selection fate spans selected := by
  have hapart : InOrder 0 (selected.map Replacement.edit) ↔
      selected.IsChain fun r r' => r.span.stop ≤ r'.span.opening := by
    cases selected with
    | nil => simp [InOrder]
    | cons r selected => simp only [inOrder_cons_iff, Nat.zero_le, true_and]
  constructor
  · rintro ⟨hsublist, horder, hresolved, hpassed⟩
    exact ⟨hsublist, hapart.1 horder, hresolved, by simpa using hpassed⟩
  · rintro ⟨hsublist, hchain, hresolved, hpassed⟩
    exact ⟨hsublist, hapart.2 hchain, hresolved, by simpa using hpassed⟩

/-! ## The first one wins -/

/-- Takes every placeholder that has a replacement and does not open before the end of the one taken
last. -/
def leftmost (fate : Span → Resolution) : (copied : Nat) → (spans : List Span) → List Replacement
  | _, [] => []
  | copied, span :: spans =>
    if span.opening < copied then leftmost fate copied spans
    else match (fate span).replacement? with
      | none => leftmost fate copied spans
      | some text => ⟨span, text⟩ :: leftmost fate span.stop spans

section

variable {fate : Span → Resolution} {copied : Nat} {span : Span} {spans : List Span}

theorem span_mem_of_mem_leftmost {r : Replacement} (h : r ∈ leftmost fate copied spans) :
    r.span ∈ spans := by
  induction spans generalizing copied with
  | nil => cases h
  | cons span spans ih =>
    rw [leftmost] at h
    split at h
    · exact List.mem_cons_of_mem _ (ih h)
    · split at h
      · exact List.mem_cons_of_mem _ (ih h)
      · rcases List.mem_cons.1 h with rfl | h
        · exact List.mem_cons_self
        · exact List.mem_cons_of_mem _ (ih h)

theorem leftmost_cons_of_passed (h : span.opening < copied ∨ fate span = .unresolved) :
    leftmost fate copied (span :: spans) = leftmost fate copied spans := by
  rw [leftmost]
  split
  · rfl
  · next hle => rw [Resolution.replacement?_eq_none_iff.2 (h.resolve_left hle)]

theorem leftmost_cons_of_taken {text : String} (hle : copied ≤ span.opening)
    (htext : (fate span).replacement? = some text) :
    leftmost fate copied (span :: spans) = ⟨span, text⟩ :: leftmost fate span.stop spans := by
  rw [leftmost, if_neg (Nat.not_lt.2 hle), htext]

/-- A selection goes on past a placeholder that opens too early or does not resolve. -/
theorem selectionFrom_cons_of_passed {selected : List Replacement}
    (hsorted : ∀ t ∈ spans, span.opening < t.opening)
    (h : span.opening < copied ∨ fate span = .unresolved) :
    SelectionFrom fate copied (span :: spans) selected ↔
      SelectionFrom fate copied spans selected := by
  constructor
  · rintro ⟨hsublist, horder, hresolved, hpassed⟩
    refine ⟨?_, horder, hresolved, fun t ht hnot => hpassed t (List.mem_cons_of_mem _ ht) hnot⟩
    rcases List.sublist_cons_iff.1 hsublist with hrest | ⟨rest, hmap, -⟩
    · exact hrest
    · -- The placeholder cannot be the first selected one.
      obtain ⟨r, selected, rfl, rfl, -⟩ := List.map_eq_cons_iff.1 hmap
      rcases h with hlt | hunresolved
      · exact absurd horder.1 (Nat.not_le.2 hlt)
      · have htext := hresolved r List.mem_cons_self
        rw [hunresolved] at htext
        simp [Resolution.replacement?] at htext
  · rintro ⟨hsublist, horder, hresolved, hpassed⟩
    refine ⟨hsublist.cons span, horder, hresolved, fun t ht hnot => ?_⟩
    rcases List.mem_cons.1 ht with rfl | ht
    · rcases h with hlt | hunresolved
      · exact .inl hlt
      · exact .inr (.inl hunresolved)
    · exact hpassed t ht hnot

/-- A selection begins with a placeholder that may be taken and goes on past its end. -/
theorem selectionFrom_cons_of_taken {selected : List Replacement} {text : String}
    (hstop : span.opening < span.stop) (hsorted : ∀ t ∈ spans, span.opening < t.opening)
    (hle : copied ≤ span.opening) (htext : (fate span).replacement? = some text) :
    SelectionFrom fate copied (span :: spans) selected ↔
      ∃ rest, selected = ⟨span, text⟩ :: rest ∧ SelectionFrom fate span.stop spans rest := by
  constructor
  · rintro ⟨hsublist, horder, hresolved, hpassed⟩
    rcases List.sublist_cons_iff.1 hsublist with hrest | ⟨rest, hmap, hrest⟩
    · -- Left out, it would have to open inside one that opens after it.
      have hnot : span ∉ selected.map (·.span) := fun hmem =>
        Nat.lt_irrefl _ (hsorted span (hrest.subset hmem))
      rcases hpassed span List.mem_cons_self hnot with hlt | hunresolved | ⟨r, hr, hlt, -⟩
      · omega
      · rw [hunresolved] at htext
        simp [Resolution.replacement?] at htext
      · have hlater := hsorted r.span (hrest.subset (List.mem_map_of_mem hr))
        omega
    · obtain ⟨r, selected, rfl, rfl, rfl⟩ := List.map_eq_cons_iff.1 hmap
      have hr : r = ⟨r.span, text⟩ := by
        have := htext.symm.trans (hresolved r List.mem_cons_self)
        cases r
        simpa using this.symm
      refine ⟨selected, by rw [← hr], hrest, horder.2,
        fun t ht => hresolved t (List.mem_cons_of_mem r ht), fun t ht hnot => ?_⟩
      have hlater := hsorted t ht
      have hnot' : t ∉ (r :: selected).map (·.span) := by
        simp only [List.map_cons, List.mem_cons, not_or]
        exact ⟨fun heq => by rw [heq] at hlater; omega, hnot⟩
      rcases hpassed t (List.mem_cons_of_mem _ ht) hnot' with hlt | hunresolved | ⟨u, hu, hinside⟩
      · omega
      · exact .inr (.inl hunresolved)
      · rcases List.mem_cons.1 hu with rfl | hu
        · exact .inl hinside.2
        · exact .inr (.inr ⟨u, hu, hinside⟩)
  · rintro ⟨rest, rfl, hsublist, horder, hresolved, hpassed⟩
    refine ⟨hsublist.cons_cons span, ⟨hle, horder⟩, fun r hr => ?_, fun t ht hnot => ?_⟩
    · rcases List.mem_cons.1 hr with rfl | hr
      · exact htext
      · exact hresolved r hr
    · simp only [List.map_cons, List.mem_cons, not_or] at hnot
      have ht' : t ∈ spans := (List.mem_cons.1 ht).resolve_left hnot.1
      rcases hpassed t ht' hnot.2 with hlt | hunresolved | ⟨u, hu, hinside⟩
      · exact .inr (.inr ⟨_, List.mem_cons_self, hsorted t ht', hlt⟩)
      · exact .inr (.inl hunresolved)
      · exact .inr (.inr ⟨u, List.mem_cons_of_mem _ hu, hinside⟩)

end

/-- There is one selection, and it is the leftmost one. -/
theorem selectionFrom_iff {fate : Span → Resolution} {copied : Nat} {spans : List Span}
    {selected : List Replacement} (hstop : ∀ s ∈ spans, s.opening < s.stop)
    (hsorted : spans.Pairwise (fun a b => a.opening < b.opening)) :
    SelectionFrom fate copied spans selected ↔ selected = leftmost fate copied spans := by
  induction spans generalizing copied selected with
  | nil =>
    constructor
    · rintro ⟨hsublist, -, -, -⟩
      simpa [leftmost] using hsublist
    · rintro rfl
      exact ⟨by simp [leftmost], trivial, by simp [leftmost], by simp⟩
  | cons span spans ih =>
    obtain ⟨hfirst, hrest⟩ := List.pairwise_cons.1 hsorted
    have ih' := fun {copied selected} =>
      @ih copied selected (fun s hs => hstop s (List.mem_cons_of_mem _ hs)) hrest
    by_cases hpassed : span.opening < copied ∨ fate span = .unresolved
    · rw [selectionFrom_cons_of_passed hfirst hpassed, leftmost_cons_of_passed hpassed, ih']
    · obtain ⟨hle, hresolves⟩ := not_or.1 hpassed
      cases htext : (fate span).replacement? with
      | none => exact absurd (Resolution.replacement?_eq_none_iff.1 htext) hresolves
      | some text =>
        rw [leftmost_cons_of_taken (Nat.not_lt.1 hle) htext, selectionFrom_cons_of_taken
          (hstop span List.mem_cons_self) hfirst (Nat.not_lt.1 hle) htext]
        simp only [ih', exists_eq_right]

/-! ## The first pass -/

/-- What a placeholder resolves to, whatever is accessed on the way. -/
def Resolver.fate {ω : Type} (r : Resolver ω) (bindings : Bindings ω) (span : Span) : Resolution :=
  (r.resolve bindings span).result

/-- The first pass takes the leftmost placeholders. -/
theorem Resolver.select_result {ω : Type} (r : Resolver ω) (bindings : Bindings ω) (copied : Nat)
    (spans : List Span) :
    (r.select bindings copied spans).result =
      (leftmost (r.fate bindings) copied spans).map Replacement.edit := by
  induction spans generalizing copied with
  | nil => rfl
  | cons span spans ih =>
    rw [Resolver.select, leftmost]
    split
    · exact ih copied
    · rw [Logged.bind_result, fate]
      cases (r.resolve bindings span).result.replacement? with
      | none => exact ih copied
      | some text =>
        rw [Logged.bind_result, Logged.pure_result, ih, List.map_cons]
        rfl

/-- The end of the last one of `replaced`; `copied` if there is none. -/
def copiedTo : (copied : Nat) → (replaced : List Replacement) → Nat
  | copied, [] => copied
  | _, r :: replaced => copiedTo r.span.stop replaced

theorem copiedTo_eq (copied : Nat) (replaced : List Replacement) :
    copiedTo copied replaced = copied ∨ ∃ r ∈ replaced, copiedTo copied replaced = r.span.stop := by
  induction replaced generalizing copied with
  | nil => exact .inl rfl
  | cons r replaced ih =>
    rcases ih r.span.stop with heq | ⟨r', hr', heq⟩
    · exact .inr ⟨r, List.mem_cons_self, heq⟩
    · exact .inr ⟨r', List.mem_cons_of_mem r hr', heq⟩

/-- The first pass goes through placeholders one after the other: behind the first ones it has
copied the template up to the end of the last one that it replaced. -/
theorem Resolver.select_append_eq {ω : Type} (r : Resolver ω) (bindings : Bindings ω) (copied : Nat)
    (earlier later : List Span) :
    r.select bindings copied (earlier ++ later) =
      (do
        let edits ← r.select bindings copied earlier
        let edits' ←
          r.select bindings (copiedTo copied (leftmost (r.fate bindings) copied earlier)) later
        return edits ++ edits') := by
  induction earlier generalizing copied with
  | nil => simp only [List.nil_append, select, leftmost, copiedTo, pure_bind, bind_pure]
  | cons span earlier ih =>
    rw [List.cons_append, select, select, leftmost]
    split
    · exact ih copied
    · rw [bind_assoc]
      refine Logged.bind_congr_result ?_
      simp only [fate]
      cases (r.resolve bindings span).result.replacement? with
      | none => exact ih copied
      | some text => simp only [ih, bind_assoc, pure_bind, List.cons_append, copiedTo]

/-- The edits of a selection of placeholders that stand in a text can be carried out. -/
theorem SelectionFrom.exists_spliced {text : Text} {fate : Span → Resolution} {spans : List Span}
    {selected : List Replacement} (h : SelectionFrom fate 0 spans selected)
    (hoccurs : ∀ span ∈ spans, Occurs text span) :
    ∃ out, Spliced text 0 (selected.map Replacement.edit) out := by
  refine Text.exists_spliced (isBoundary_zero text) (fun e he => ?_) h.apart
  obtain ⟨r, hr, rfl⟩ := List.mem_map.1 he
  have hspan := hoccurs r.span (h.sublist.subset (List.mem_map_of_mem hr))
  exact ⟨hspan.isBoundary_opening, hspan.isBoundary_stop⟩

/-- The placeholders of a whole text are those that stand in it, in order. -/
theorem exists_spans (text : Text) :
    ∃ found, spans text = .ok found ∧ found.Pairwise (fun a b => a.opening < b.opening) ∧
      ∀ span, span ∈ found ↔ Occurs text span := by
  obtain ⟨found, s, hrun, hsorted, hmem, -⟩ :=
    Scanner.exists_run (Scanner.sound_fromOffset text 0)
  refine ⟨found, ?_, hsorted, fun span => ?_⟩
  · simp [spans, Scanner.ofText, hrun, bind, Except.bind, pure, Except.pure]
  · rw [hmem]
    exact ⟨fun h => h.2.2, fun h => ⟨isBoundary_zero text, Nat.zero_le _, h⟩⟩

/-- Whatever the placeholders of a text resolve to, their edits can be carried out. -/
theorem Resolver.exists_spliced {ω : Type} (r : Resolver ω) (bindings : Bindings ω) {text : Text}
    {found : List Span} (hsorted : found.Pairwise (fun a b => a.opening < b.opening))
    (hoccurs : ∀ span ∈ found, Occurs text span) :
    ∃ out, Spliced text 0 (r.select bindings 0 found).result out := by
  have hstop : ∀ s ∈ found, s.opening < s.stop := fun s hs => (hoccurs s hs).opening_lt_stop
  have hselection := (@selectionFrom_iff (r.fate bindings) 0 found _ hstop hsorted).2 rfl
  rw [Resolver.select_result]
  exact hselection.exists_spliced hoccurs

/-- The first pass answers the template with the edits of its placeholders carried out. -/
theorem formatProperties_eq_of_spliced {ω σ : Type} {f : Formatter ω σ} {host : Host ω}
    {template : String} {bindings : Bindings ω} {found : List Span} {out : Text}
    (hspans : spans template.toList = .ok found)
    (hout : Spliced template.toList 0 ((f.resolver host).select bindings 0 found).result out) :
    f.formatProperties host template bindings =
      .ok ⟨((f.resolver host).select bindings 0 found).events, String.ofList out⟩ := by
  have hsplice := splice_eq_ok_iff.2 hout
  simp only [Formatter.formatProperties, hspans, hsplice, bind, Except.bind, pure, Except.pure]

/-- The first pass of a template with the placeholders `found` answers `rendered`, in which those of
`selected` are replaced. -/
structure FirstPass {ω σ : Type} (f : Formatter ω σ) (host : Host ω) (template : String)
    (bindings : Bindings ω) (found : List Span) (selected : List Replacement)
    (rendered : Logged ω String) : Prop where
  spans_eq : spans template.toList = .ok found
  answer_eq : f.formatProperties host template bindings = .ok rendered
  selection : Selection ((f.resolver host).fate bindings) found selected
  /-- every other byte of the template is kept -/
  spliced : Spliced template.toList 0 (selected.map Replacement.edit) rendered.result.toList

/-- The first pass always has an answer, in which the leftmost placeholders are replaced. -/
theorem exists_firstPass {ω σ : Type} (f : Formatter ω σ) (host : Host ω) (template : String)
    (bindings : Bindings ω) :
    ∃ found text, found.Pairwise (fun a b => a.opening < b.opening) ∧
      FirstPass f host template bindings found
        (leftmost ((f.resolver host).fate bindings) 0 found)
        ⟨((f.resolver host).select bindings 0 found).events, text⟩ := by
  obtain ⟨found, hspans, hsorted, hmem⟩ := exists_spans template.toList
  have hoccurs : ∀ span ∈ found, Occurs template.toList span := fun span => (hmem span).1
  have hstop : ∀ s ∈ found, s.opening < s.stop := fun s hs => (hoccurs s hs).opening_lt_stop
  obtain ⟨out, hout⟩ := (f.resolver host).exists_spliced bindings hsorted hoccurs
  refine ⟨found, String.ofList out, hsorted, hspans, formatProperties_eq_of_spliced hspans hout,
    selectionFrom_zero_iff.1 ((selectionFrom_iff hstop hsorted).2 rfl), ?_⟩
  rw [String.toList_ofList, ← Resolver.select_result]
  exact hout

/-- Where the same placeholders of a template are replaced by the same texts, the answers are the
same text. -/
theorem FirstPass.result_eq {ω ω' σ σ' : Type} {f : Formatter ω σ} {f' : Formatter ω' σ'}
    {host : Host ω} {host' : Host ω'} {template : String} {bindings : Bindings ω}
    {bindings' : Bindings ω'} {found found' : List Span} {selected : List Replacement}
    {rendered : Logged ω String} {rendered' : Logged ω' String}
    (h : FirstPass f host template bindings found selected rendered)
    (h' : FirstPass f' host' template bindings' found' selected rendered') :
    rendered'.result = rendered.result := by
  have hsplice := splice_eq_ok_iff.2 h.spliced
  rw [splice_eq_ok_iff.2 h'.spliced] at hsplice
  exact String.toList_injective (Except.ok.inj hsplice)

/-- The first pass is the one selection among the placeholders of the template, carried out: what is
selected is replaced, and every other byte of the template is kept. -/
theorem formatProperties_eq_selection {ω σ : Type} (f : Formatter ω σ) (host : Host ω)
    (template : String) (bindings : Bindings ω) :
    ∃ found selected rendered, spans template.toList = .ok found ∧
      f.formatProperties host template bindings = .ok rendered ∧
      Selection ((f.resolver host).fate bindings) found selected ∧
      (∀ other, Selection ((f.resolver host).fate bindings) found other → other = selected) ∧
      Spliced template.toList 0 (selected.map Replacement.edit) rendered.result.toList := by
  obtain ⟨found, hspans, hsorted, hmem⟩ := exists_spans template.toList
  have hstop : ∀ s ∈ found, s.opening < s.stop := fun s hs => ((hmem s).1 hs).opening_lt_stop
  have honly := fun selected =>
    @selectionFrom_iff ((f.resolver host).fate bindings) 0 found selected hstop hsorted
  have hselection := (honly _).2 rfl
  obtain ⟨out, hout⟩ := hselection.exists_spliced fun span hspan => (hmem span).1 hspan
  refine ⟨found, leftmost _ 0 found,
    ⟨((f.resolver host).select bindings 0 found).events, String.ofList out⟩, hspans, ?_,
    selectionFrom_zero_iff.1 hselection,
    fun other h => (honly other).1 (selectionFrom_zero_iff.2 h), ?_⟩
  · have hsplice : splice template.toList 0 ((f.resolver host).select bindings 0 found).result =
        .ok out := by
      rw [Resolver.select_result]
      exact splice_eq_ok_iff.2 hout
    simp only [Formatter.formatProperties, hspans, hsplice, bind, Except.bind, pure, Except.pure]
  · rw [String.toList_ofList]
    exact hout

end TextTemplate.Placeholder
