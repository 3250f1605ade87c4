import TextTemplate.Proofs.Fixture.Rehearsal
import TextTemplate.Proofs.Placeholder.Selection
set_option autoImplicit false

/-!
# Concatenation: the first pass of a text in two parts

Where a text is cut so that no open marker before the cut is closed behind it, and the cut is not
inside an open marker, no placeholder lies across the cut.  The placeholders of the whole are then
those of the first part and, so many bytes further on, those of the second (`spans_append`), a
replacement in one part hides nothing in the other (`Resolver.select_append`), and the two parts may
be rendered one by one.
-/

namespace TextTemplate.Placeholder

open Fixture (noObjects)
open Text

variable {ω σ : Type}

/-! ## Texts whose open markers are closed -/

/-- Behind every open marker there is a close marker. -/
def Closed (t : Text) : Prop := ∀ before rest, t = before ++ openMarker ++ rest → '}' ∈ rest

theorem closed_nil : Closed [] := by
  intro before rest h
  simp [openMarker] at h

theorem closed_cons_iff {c : Char} {t : Text} :
    Closed (c :: t) ↔ (openMarker <+: c :: t → '}' ∈ t) ∧ Closed t := by
  constructor
  · intro h
    refine ⟨?_, fun before rest ht => h (c :: before) rest (by rw [ht]; rfl)⟩
    rintro ⟨rest, hrest⟩
    have hmem := h [] rest hrest.symm
    have ht : t = '{' :: rest := (List.cons.inj hrest).2.symm
    exact ht ▸ List.mem_cons_of_mem _ hmem
  · rintro ⟨hhead, htail⟩ before rest h
    cases before with
    | nil =>
      have ht : t = '{' :: rest := (List.cons.inj h).2
      have hmem := hhead ⟨rest, h.symm⟩
      simpa [ht] using hmem
    | cons c' before => exact htail before rest (List.cons.inj h).2

instance decidableClosed : DecidablePred Closed
  | [] => isTrue closed_nil
  | _ :: t => @decidable_of_iff' _ _ closed_cons_iff
      (@instDecidableAnd _ _ inferInstance (decidableClosed t))

/-! ## Placeholders of a concatenation -/

/-- The same placeholder `n` bytes further on. -/
def Span.shift (n : Nat) (s : Span) : Span := ⟨s.content, s.opening + n, s.closing + n⟩

theorem Span.stop_shift (n : Nat) (s : Span) : (s.shift n).stop = s.stop + n := by
  simp only [stop, shift]
  omega

theorem Occurs.append {a : Text} {span : Span} (b : Text) (h : Occurs a span) :
    Occurs (a ++ b) span := by
  obtain ⟨before, content, rest, htext, hopening, hclosing, hunclosed, hspells⟩ := h
  refine ⟨before, content, rest ++ b, ?_, hopening, hclosing, hunclosed, hspells⟩
  rw [htext]
  simp only [List.append_assoc]

theorem Occurs.shift {b : Text} {span : Span} (a : Text) (h : Occurs b span) :
    Occurs (a ++ b) (span.shift (byteSize a)) := by
  obtain ⟨before, content, rest, htext, hopening, hclosing, hunclosed, hspells⟩ := h
  refine ⟨a ++ before, content, rest, ?_, ?_, ?_, hunclosed, hspells⟩
  · rw [htext]
    simp only [List.append_assoc]
  · rw [byteSize_append, hopening, Span.shift, Nat.add_comm]
  · simp only [Span.shift, ← hclosing]
    omega

/-- A cut behind the beginning of an open marker lies inside it or behind it. -/
theorem openMarker_cut {front inner tail : Text} (hne : front ≠ [])
    (h : openMarker ++ inner = front ++ tail) :
    (front = ['$'] ∧ tail = '{' :: inner) ∨
      ∃ body, front = openMarker ++ body ∧ inner = body ++ tail := by
  cases front with
  | nil => exact absurd rfl hne
  | cons c front =>
    obtain ⟨hc, h⟩ := List.cons.inj h
    cases front with
    | nil => exact .inl ⟨by rw [hc], h.symm⟩
    | cons c' body =>
      obtain ⟨hc', h⟩ := List.cons.inj h
      exact .inr ⟨body, by rw [← hc, ← hc']; rfl, h⟩

/-- The part that holds the open marker of a placeholder holds all of it. -/
theorem occurs_append_iff {a b : Text} (hclosed : Closed a)
    (hseam : ¬ (a.getLast? = some '$' ∧ b.head? = some '{')) (span : Span) :
    Occurs (a ++ b) span ↔ Occurs a span ∨ ∃ t, Occurs b t ∧ span = t.shift (byteSize a) := by
  constructor
  · rintro ⟨before, content, rest, htext, hopening, hclosing, hunclosed, hspells⟩
    have hcut : a ++ b = before ++ (openMarker ++ (content ++ '}' :: rest)) := by
      simp [htext, closeMarker]
    rcases Nat.lt_or_ge (byteSize before) (byteSize a) with hlt | hge
    · obtain ⟨front, rfl, hmarked⟩ := exists_append_of_byteSize_le hcut.symm (Nat.le_of_lt hlt)
      have hne : front ≠ [] := by
        rintro rfl
        simp at hlt
      rcases openMarker_cut hne hmarked with ⟨rfl, rfl⟩ | ⟨body, rfl, hbody⟩
      · simp at hseam
      · -- The content ends in the first part, with the close marker that must be there.
        have hmem : '}' ∈ body := hclosed before body (by rw [List.append_assoc])
        obtain ⟨content', tail, rfl, hunclosed'⟩ := List.eq_append_cons_of_mem hmem
        have hclose : content ++ '}' :: rest = content' ++ '}' :: (tail ++ b) := by
          simpa using hbody
        obtain ⟨rfl, -⟩ := append_cons_inj_of_not_mem hclose hunclosed hunclosed'
        refine .inl ⟨before, content, tail, ?_, hopening, hclosing, hunclosed, hspells⟩
        simp [closeMarker]
    · obtain ⟨gap, rfl, hb⟩ := exists_append_of_byteSize_le hcut hge
      refine .inr ⟨⟨span.content, byteSize gap, byteSize gap + byteSize openMarker +
        byteSize content⟩, ⟨gap, content, rest, ?_, rfl, rfl, hunclosed, hspells⟩, ?_⟩
      · simp [hb, closeMarker]
      · rw [byteSize_append] at hopening
        cases span
        simp only [Span.shift, Span.mk.injEq, true_and] at hopening hclosing ⊢
        omega
  · rintro (h | ⟨t, h, rfl⟩)
    · exact h.append b
    · exact h.shift a

/-- Placeholders in the order of their open markers are determined by which they are. -/
theorem eq_of_sorted {found found' : List Span}
    (h : found.Pairwise (fun s t => s.opening < t.opening))
    (h' : found'.Pairwise (fun s t => s.opening < t.opening))
    (hmem : ∀ span, span ∈ found ↔ span ∈ found') : found = found' := by
  have hnodup := fun {spans : List Span} (hs : spans.Pairwise (fun s t => s.opening < t.opening)) =>
    hs.imp fun {s t} hlt (heq : s = t) => Nat.lt_irrefl _ (heq ▸ hlt)
  have hperm : found.Perm found' := (List.perm_ext_iff_of_nodup (hnodup h) (hnodup h')).2 hmem
  exact hperm.eq_of_pairwise (fun s t _ _ hst hts => absurd hst (Nat.lt_asymm hts)) h h'

/-- The placeholders of the whole are those of the first part, and those of the second part as many
bytes further on as the first one has. -/
theorem spans_append {a b : Text} {found found' : List Span} (hclosed : Closed a)
    (hseam : ¬ (a.getLast? = some '$' ∧ b.head? = some '{')) (ha : spans a = .ok found)
    (hb : spans b = .ok found') :
    spans (a ++ b) = .ok (found ++ found'.map (Span.shift (byteSize a))) := by
  obtain ⟨left, hleft, hsorted, hmem⟩ := exists_spans a
  obtain ⟨right, hright, hsorted', hmem'⟩ := exists_spans b
  obtain ⟨whole, hwhole, hsorted'', hmem''⟩ := exists_spans (a ++ b)
  obtain rfl : found = left := Except.ok.inj (ha.symm.trans hleft)
  obtain rfl : found' = right := Except.ok.inj (hb.symm.trans hright)
  have hjoined : (found ++ found'.map (Span.shift (byteSize a))).Pairwise
      (fun s t => s.opening < t.opening) := by
    refine List.pairwise_append.2 ⟨hsorted, ?_, ?_⟩
    · exact List.pairwise_map.2 (hsorted'.imp fun {s t} hlt => Nat.add_lt_add_right hlt _)
    · intro s hs t ht
      obtain ⟨t, -, rfl⟩ := List.mem_map.1 ht
      have hstart := ((hmem s).1 hs).opening_lt_stop
      have hstop := ((hmem s).1 hs).isBoundary_stop.le_byteSize
      simp only [Span.shift]
      omega
  rw [hwhole]
  refine congrArg _ (eq_of_sorted hsorted'' hjoined fun span => ?_)
  rw [hmem'', occurs_append_iff hclosed hseam, List.mem_append, List.mem_map, hmem]
  simp only [hmem', eq_comm]

/-! ## Replacements in a concatenation -/

namespace Resolver

variable (r : Resolver ω) (bindings : Bindings ω)

theorem resolve_shift (n : Nat) (span : Span) :
    r.resolve bindings (span.shift n) = r.resolve bindings span := rfl

/-- The same placeholders further on are replaced in the same way further on. -/
theorem select_shift (n copied : Nat) (found : List Span) :
    r.select bindings (copied + n) (found.map (Span.shift n)) =
      (r.select bindings copied found >>= fun edits => pure (edits.map (Edit.shift n))) := by
  induction found generalizing copied with
  | nil => rfl
  | cons span found ih =>
    have hlt : (span.shift n).opening < copied + n ↔ span.opening < copied :=
      Nat.add_lt_add_iff_right
    rw [List.map_cons, select, select, resolve_shift]
    simp only [hlt]
    split
    · exact ih copied
    · rw [bind_assoc]
      refine congrArg _ (funext fun resolution => ?_)
      cases resolution.replacement? with
      | none => exact ih copied
      | some text =>
        simp only [Span.stop_shift, ih, bind_assoc, pure_bind, List.map_cons]
        rfl

/-- What has been copied does not matter as long as no placeholder opens before it. -/
theorem select_eq_of_le {copied copied' : Nat} {found : List Span}
    (h : ∀ span ∈ found, copied ≤ span.opening ∧ copied' ≤ span.opening) :
    r.select bindings copied found = r.select bindings copied' found := by
  induction found with
  | nil => rfl
  | cons span found ih =>
    obtain ⟨⟨hle, hle'⟩, hfound⟩ := List.forall_mem_cons.1 h
    simp only [select, if_neg (Nat.not_lt.2 hle), if_neg (Nat.not_lt.2 hle'), ih hfound]

/-- Placeholders that open behind the ends of all earlier ones are replaced by themselves. -/
theorem select_append {copied limit : Nat} {found found' : List Span} (hcopied : copied ≤ limit)
    (hstop : ∀ span ∈ found, span.stop ≤ limit) (hopening : ∀ span ∈ found', limit ≤ span.opening) :
    r.select bindings copied (found ++ found') =
      (do
        let edits ← r.select bindings copied found
        let edits' ← r.select bindings limit found'
        return edits ++ edits') := by
  have hle : copiedTo copied (leftmost (r.fate bindings) copied found) ≤ limit := by
    rcases copiedTo_eq copied (leftmost (r.fate bindings) copied found) with heq | ⟨r', hr', heq⟩
    · rw [heq]
      exact hcopied
    · rw [heq]
      exact hstop r'.span (span_mem_of_mem_leftmost hr')
  rw [select_append_eq, r.select_eq_of_le bindings fun span hspan =>
    ⟨Nat.le_trans hle (hopening span hspan), hopening span hspan⟩]

end Resolver

/-! ## Main statement -/

/-- Two texts whose concatenation makes no new placeholder, because every open marker of the first
one is closed in it and none is made where they meet, are rendered one by one: the answer for both
together is the one for the first and then the one for the second, with the accesses in this
order. -/
theorem formatProperties_append (f : Formatter ω σ) (host : Host ω) (a b : String)
    (bindings : Bindings ω) (hclosed : Closed a.toList)
    (hseam : ¬ (a.toList.getLast? = some '$' ∧ b.toList.head? = some '{')) :
    ∃ left right, f.formatProperties host a bindings = .ok left ∧
      f.formatProperties host b bindings = .ok right ∧
      f.formatProperties host (a ++ b) bindings =
        .ok ⟨left.events ++ right.events, left.result ++ right.result⟩ := by
  obtain ⟨found, hspans, hsorted, hmem⟩ := exists_spans a.toList
  obtain ⟨found', hspans', hsorted', hmem'⟩ := exists_spans b.toList
  let r := f.resolver host
  let n := byteSize a.toList
  obtain ⟨out, hout⟩ := r.exists_spliced bindings hsorted fun s => (hmem s).1
  obtain ⟨out', hout'⟩ := r.exists_spliced bindings hsorted' fun s => (hmem' s).1
  -- The selection of the whole is that of the first part, and then that of the second, shifted.
  have hopening : ∀ span ∈ found'.map (Span.shift n), n ≤ span.opening :=
    List.forall_mem_map.2 fun span _ => Nat.le_add_left _ span.opening
  have hshift := r.select_shift bindings n 0 found'
  have hselect := r.select_append bindings (Nat.zero_le n)
    (fun span hspan => ((hmem span).1 hspan).isBoundary_stop.le_byteSize) hopening
  rw [Nat.zero_add] at hshift
  rw [hshift] at hselect
  have hwhole : spans (a ++ b).toList = .ok (found ++ found'.map (Span.shift n)) := by
    rw [String.toList_append]
    exact spans_append hclosed hseam hspans hspans'
  have hspliced : Spliced (a ++ b).toList 0
      (r.select bindings 0 (found ++ found'.map (Span.shift n))).result (out ++ out') := by
    have hjoined := hout'.shift a.toList
    rw [Nat.zero_add] at hjoined
    rw [hselect, String.toList_append]
    exact hout.append hjoined
  refine ⟨_, _, formatProperties_eq_of_spliced hspans hout,
    formatProperties_eq_of_spliced hspans' hout', ?_⟩
  rw [formatProperties_eq_of_spliced hwhole hspliced, hselect, String.ofList_append]
  simp only [Logged.bind_events, Logged.pure_events, List.append_nil]
  rfl

/-- In `${x${n}$` both open markers are closed, by one close marker, and the `$` at the end meets no
brace: of the two parts, `${x7$` and `n}7` are left. -/
theorem formatProperties_append_nested :
    let f : Formatter Empty Unit := Formatter.default noObjects
    let bindings : Bindings Empty := Bindings.ofList [("n", .str "7")]
    Closed "$\x7bx$\x7bn\x7d$".toList ∧
      ¬ ("$\x7bx$\x7bn\x7d$".toList.getLast? = some '$' ∧
        "n\x7d$\x7bn\x7d".toList.head? = some '{') ∧
      f.formatProperties noObjects "$\x7bx$\x7bn\x7d$" bindings = .ok ⟨[], "$\x7bx7$"⟩ ∧
      f.formatProperties noObjects "n\x7d$\x7bn\x7d" bindings = .ok ⟨[], "n\x7d7"⟩ ∧
      f.formatProperties noObjects ("$\x7bx$\x7bn\x7d$" ++ "n\x7d$\x7bn\x7d") bindings =
        .ok ⟨[], "$\x7bx7$n\x7d7"⟩ := by
  have hclosed : Closed "$\x7bx$\x7bn\x7d$".toList := by decide
  have hseam : ¬ ("$\x7bx$\x7bn\x7d$".toList.getLast? = some '$' ∧
      "n\x7d$\x7bn\x7d".toList.head? = some '{') := by decide
  have hleft : (Formatter.default noObjects : Formatter Empty Unit).formatProperties noObjects
      "$\x7bx$\x7bn\x7d$" (Bindings.ofList [("n", .str "7")]) = .ok ⟨[], "$\x7bx7$"⟩ := by rfl
  have hright : (Formatter.default noObjects : Formatter Empty Unit).formatProperties noObjects
      "n\x7d$\x7bn\x7d" (Bindings.ofList [("n", .str "7")]) = .ok ⟨[], "n\x7d7"⟩ := by rfl
  intro f bindings
  obtain ⟨left, right, hleft', hright', hwhole⟩ :=
    formatProperties_append f noObjects _ _ bindings hclosed hseam
  obtain rfl : left = ⟨[], "$\x7bx7$"⟩ := Except.ok.inj (hleft'.symm.trans hleft)
  obtain rfl : right = ⟨[], "n\x7d7"⟩ := Except.ok.inj (hright'.symm.trans hright)
  exact ⟨hclosed, hseam, hleft, hright, hwhole⟩

end TextTemplate.Placeholder
