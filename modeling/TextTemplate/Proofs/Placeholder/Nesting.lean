import TextTemplate.Proofs.Placeholder.Selection
set_option autoImplicit false

/-!
# Nesting: placeholders that share a close marker

Of two placeholders of one text the later one either opens behind the close marker of the earlier
one or lies inside it and ends at the same close marker (`Occurs.lies`): no other close marker
stands between an open marker and its own.  The first pass passes over what opens before the end of
the placeholder it replaced last.  These are therefore just the placeholders that share the close
marker of a replaced one, and a placeholder with a close marker of its own always has its turn.
-/

namespace TextTemplate.Placeholder

open Text

/-! ## Two placeholders of one text -/

/-- How the placeholder `t` lies to the placeholder `s` before it: behind its end, or inside it and
with the same close marker. -/
inductive Lies (s t : Span) : Prop where
  | behind (stop_le : s.stop ≤ t.opening) (closing_lt : s.closing < t.closing)
  | inside (opening_lt : s.opening < t.opening) (opening_lt_closing : t.opening < s.closing)
      (closing_eq : t.closing = s.closing)

/-- To open before the end of a placeholder is to share its close marker. -/
theorem Lies.opening_lt_stop_iff {s t : Span} (h : Lies s t) :
    t.opening < s.stop ↔ t.closing = s.closing := by
  cases h with
  | behind stop_le closing_lt => omega
  | inside _ opening_lt_closing closing_eq =>
    rw [Span.stop, byteSize_closeMarker]
    omega

/-- An open marker that stands before a close marker stands before it as a whole. -/
theorem opening_add_two_le {text : Text} {opening closing : Nat}
    (hopening : StandsAt text openMarker opening) (hclosing : StandsAt text closeMarker closing)
    (hle : opening ≤ closing) : opening + 2 ≤ closing := by
  obtain ⟨before, rest, htext, rfl⟩ := hopening
  have hdollar : StandsAt text ['$'] (byteSize before) :=
    ⟨before, '{' :: rest, by simp [htext, openMarker], rfl⟩
  have hbrace : StandsAt text ['{'] (byteSize before + 1) := by
    refine ⟨before ++ ['$'], rest, by simp [htext, openMarker], ?_⟩
    rw [byteSize_append]
    rfl
  have hne : byteSize before ≠ closing := by
    rintro rfl
    exact absurd (hdollar.unique hclosing) (by decide)
  have hne' : byteSize before + 1 ≠ closing := by
    rintro rfl
    exact absurd (hbrace.unique hclosing) (by decide)
  omega

namespace Occurs

variable {text : Text} {s t : Span}

theorem standsAt_opening (h : Occurs text s) : StandsAt text openMarker s.opening := by
  obtain ⟨before, content, rest, htext, hopening, -, -, -⟩ := h
  exact ⟨before, content ++ closeMarker ++ rest, by simp [htext], hopening⟩

/-- A placeholder ends at the first close marker behind its open marker. -/
theorem firstAt_closing (h : Occurs text s) :
    FirstAt text closeMarker (s.opening + 2) s.closing := by
  obtain ⟨before, content, rest, htext, hopening, hclosing, hunclosed, -⟩ := h
  rw [byteSize_openMarker] at hclosing
  have hstart : byteSize (before ++ openMarker) = s.opening + 2 := by
    rw [byteSize_append, hopening, byteSize_openMarker]
  have hfirst : Scanner.FirstOf text ['}'] (s.opening + 2) s.closing :=
    ⟨before ++ openMarker, content, '}', rest, by simp [htext, closeMarker], Nat.le_of_eq hstart,
      by rw [hstart, hclosing], List.mem_singleton_self _,
      fun x hx hstop => hunclosed (List.mem_singleton.1 hstop ▸ hx)⟩
  exact hfirst.firstAt (Nat.le_refl _) (by omega)

/-- A placeholder that opens inside another one ends with it. -/
theorem lies (hs : Occurs text s) (ht : Occurs text t) (hlt : s.opening < t.opening) :
    Lies s t := by
  have hclose := hs.firstAt_closing
  have hclose' := ht.firstAt_closing
  have hle := hclose'.le
  have hstop : s.stop = s.closing + 1 := rfl
  rcases Nat.lt_or_ge s.closing t.opening with hbehind | hinside
  · exact .behind (by omega) (by omega)
  · -- The content of `t` starts before `s` is closed, so each close marker bounds the other.
    have hstart := opening_add_two_le ht.standsAt_opening hclose.stands hinside
    have hclosing_le : t.closing ≤ s.closing := hclose'.first s.closing hstart hclose.stands
    have hle_closing : s.closing ≤ t.closing := hclose.first t.closing (by omega) hclose'.stands
    exact .inside hlt (by omega) (Nat.le_antisymm hclosing_le hle_closing)

end Occurs

/-- Placeholders of one text in the order of their open markers lie behind or inside one another. -/
theorem pairwise_lies {text : Text} {found : List Span}
    (hsorted : found.Pairwise (fun s t => s.opening < t.opening))
    (hoccurs : ∀ span ∈ found, Occurs text span) : found.Pairwise Lies :=
  hsorted.imp_of_mem fun hs ht hlt => (hoccurs _ hs).lies (hoccurs _ ht) hlt

/-! ## What is passed over -/

section

variable {fate : Span → Resolution} {copied : Nat} {spans : List Span}

/-- Replaced placeholders end before the end of the last one of them. -/
theorem stop_le_copiedTo (hstop : ∀ s ∈ spans, s.opening < s.stop) :
    copied ≤ copiedTo copied (leftmost fate copied spans) ∧
      ∀ r ∈ leftmost fate copied spans,
        r.span.stop ≤ copiedTo copied (leftmost fate copied spans) := by
  induction spans generalizing copied with
  | nil => exact ⟨Nat.le_refl _, by simp [leftmost]⟩
  | cons span spans ih =>
    obtain ⟨hspan, hspans⟩ := List.forall_mem_cons.1 hstop
    by_cases hpassed : span.opening < copied ∨ fate span = .unresolved
    · rw [leftmost_cons_of_passed hpassed]
      exact ih hspans
    · obtain ⟨hle, hresolves⟩ := not_or.1 hpassed
      cases htext : (fate span).replacement? with
      | none => exact absurd (Resolution.replacement?_eq_none_iff.1 htext) hresolves
      | some text =>
        rw [leftmost_cons_of_taken (Nat.not_lt.1 hle) htext, copiedTo]
        obtain ⟨hcopied, hrest⟩ := @ih span.stop hspans
        exact ⟨Nat.le_trans (by omega) hcopied, List.forall_mem_cons.2 ⟨hcopied, hrest⟩⟩

/-- What opens before the end of the last replaced placeholder is what shares a close marker with a
replaced one. -/
theorem opening_lt_copiedTo_iff {t : Span} (hstop : ∀ s ∈ spans, s.opening < s.stop)
    (hlies : ∀ s ∈ spans, Lies s t) :
    t.opening < copiedTo 0 (leftmost fate 0 spans) ↔
      ∃ r ∈ leftmost fate 0 spans, r.span.closing = t.closing := by
  constructor
  · intro hlt
    rcases copiedTo_eq 0 (leftmost fate 0 spans) with heq | ⟨r, hr, heq⟩
    · omega
    · rw [heq] at hlt
      have hclosing := (hlies r.span (span_mem_of_mem_leftmost hr)).opening_lt_stop_iff.1 hlt
      exact ⟨r, hr, hclosing.symm⟩
  · rintro ⟨r, hr, hclosing⟩
    have hlt := (hlies r.span (span_mem_of_mem_leftmost hr)).opening_lt_stop_iff.2 hclosing.symm
    exact Nat.lt_of_lt_of_le hlt ((stop_le_copiedTo hstop).2 r hr)

end

/-! ## Main statement -/

/-- The placeholders that a scan yields lie behind one another or inside one another with one close
marker.  The first pass therefore comes to each placeholder of a template with the text copied so
far that it passes the placeholder over just if it shares the close marker of one that is replaced
already. -/
theorem formatProperties_passes_over_inside {ω σ : Type} (f : Formatter ω σ) (host : Host ω)
    (template : String) (bindings : Bindings ω) :
    (∀ text offset, ∃ found s, (Scanner.fromOffset text offset).run = .ok (found, s) ∧
      found.Pairwise Lies) ∧
    ∃ found rendered, spans template.toList = .ok found ∧
      f.formatProperties host template bindings = .ok rendered ∧
      rendered.events = ((f.resolver host).select bindings 0 found).events ∧
      Spliced template.toList 0 ((f.resolver host).select bindings 0 found).result
        rendered.result.toList ∧
      ∀ earlier t later, found = earlier ++ t :: later →
        let replaced := leftmost ((f.resolver host).fate bindings) 0 earlier
        ((f.resolver host).select bindings 0 earlier).result = replaced.map Replacement.edit ∧
        (f.resolver host).select bindings 0 found =
          (do
            let edits ← (f.resolver host).select bindings 0 earlier
            let edits' ← (f.resolver host).select bindings (copiedTo 0 replaced) (t :: later)
            return edits ++ edits') ∧
        (t.opening < copiedTo 0 replaced ↔ ∃ r ∈ replaced, r.span.closing = t.closing) := by
  constructor
  · intro text offset
    obtain ⟨found, s, hrun, hsorted, hmem, -⟩ :=
      Scanner.exists_run (Scanner.sound_fromOffset text offset)
    exact ⟨found, s, hrun, pairwise_lies hsorted fun span hspan => ((hmem span).1 hspan).2.2⟩
  · obtain ⟨found, hspans, hsorted, hmem⟩ := exists_spans template.toList
    have hoccurs : ∀ span ∈ found, Occurs template.toList span := fun span => (hmem span).1
    have hlies := pairwise_lies hsorted hoccurs
    obtain ⟨out, hout⟩ := (f.resolver host).exists_spliced bindings hsorted hoccurs
    refine ⟨found, _, hspans, formatProperties_eq_of_spliced hspans hout, rfl, ?_, ?_⟩
    · rw [String.toList_ofList]
      exact hout
    · rintro earlier t later rfl
      obtain ⟨-, -, hbefore⟩ := List.pairwise_append.1 hlies
      refine ⟨Resolver.select_result _ _ _ _, Resolver.select_append_eq _ _ _ _ _,
        opening_lt_copiedTo_iff (fun s hs => ?_) fun s hs => hbefore s hs t List.mem_cons_self⟩
      exact (hoccurs s (List.mem_append_left _ hs)).opening_lt_stop

/-- Of the three placeholders of `${a${b}${b}` the first two share a close marker: the second one
has its turn only if the first one stays, the third one in any case. -/
example :
    spans "$\x7ba$\x7bb\x7d$\x7bb\x7d".toList =
      .ok [⟨.direct "a$\x7bb", 0, 6⟩, ⟨.direct "b", 3, 6⟩, ⟨.direct "b", 7, 10⟩] := by rfl

end TextTemplate.Placeholder
