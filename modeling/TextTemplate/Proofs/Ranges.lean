import TextTemplate.Proofs.Placeholder.Selection
import TextTemplate.Proofs.Script.Assembly
import TextTemplate.Proofs.Text.Encoded
set_option autoImplicit false

/-!
# Ranges: nothing is cut inside a character

Every cut of a text answers an error if its positions bound no piece, and every search and pass
hands such an error on.  None ever comes up: placeholders and sections begin and end where a tag
stands, and a tag stands between characters whatever bytes the template and the tags consist of.
What a pass copies begins where it stopped copying before, and that is never behind the next
placeholder or section.  Rendering therefore has an answer for every template.
-/

namespace TextTemplate

open Text

variable {ω σ : Type}

namespace Placeholder

variable {text : Text} {span : Span}

theorem Occurs.isRange (h : Occurs text span) : IsRange text span.opening span.stop :=
  h.isBoundary_opening.isRange h.isBoundary_stop (Nat.le_of_lt h.opening_lt_stop)

/-- Between the markers of a placeholder stands what it asks for. -/
theorem Occurs.exists_content (h : Occurs text span) :
    ∃ content, slice text (span.opening + byteSize openMarker) span.closing = .ok content ∧
      Spells content span.content := by
  obtain ⟨before, content, rest, htext, hopening, hclosing, -, hspells⟩ := h
  refine ⟨content, slice_eq_ok_iff.2 ⟨before ++ openMarker, closeMarker ++ rest, ?_, ?_, hclosing⟩,
    hspells⟩
  · rw [htext]
    simp only [List.append_assoc]
  · rw [byteSize_append, hopening]

/-- The first pass is assembled from pieces of the template and its replacements. -/
theorem exists_formatProperties_assembled (f : Formatter ω σ) (host : Host ω) (template : String)
    (bindings : Bindings ω) :
    ∃ found rendered, spans template.toList = .ok found ∧
      f.formatProperties host template bindings = .ok rendered ∧
      Assembled template.toList ((f.resolver host).select bindings 0 found).result
        rendered.result.toList := by
  obtain ⟨found, hspans, hsorted, hmem⟩ := exists_spans template.toList
  obtain ⟨out, hout⟩ :=
    (f.resolver host).exists_spliced bindings hsorted fun span => (hmem span).1
  refine ⟨found, _, hspans, formatProperties_eq_of_spliced hspans hout, ?_⟩
  rw [String.toList_ofList]
  exact hout.assembled

end Placeholder

namespace Script

variable {text startTag endTag : Text} {found : List Block}

/-- Sections lie between characters, and so does what stands between their tags. -/
theorem LeftmostScan.isRange {pos : Nat} (h : LeftmostScan text startTag endTag pos found) :
    ∀ block ∈ found, IsRange text block.start block.stop ∧
      slice text (block.start + byteSize startTag) (block.stop - byteSize endTag) =
        .ok block.source.toList := by
  induction h with
  | done unclosed => exact List.forall_mem_nil _
  | @block pos sourceStop block blocks opened closed source stop others ih =>
    refine List.forall_mem_cons.2 ⟨⟨?_, ?_⟩, ih⟩
    · have hstart := opened.stands.isRange
      have hstop := closed.stands.isRange
      have hle := closed.le
      rw [← stop] at hstop
      exact ⟨by omega, hstop.le_byteSize, hstart.lower_isValid, hstop.upper_isValid⟩
    · rw [stop, Nat.add_sub_cancel]
      exact source

/-- The search for sections comes to its end with any tags. -/
theorem exists_run_isRange (text startTag endTag : Text) :
    ∃ found last, (Blocks.ofText text startTag endTag).run = .ok (found, last) ∧
      last.next = .ok (none, last) ∧
      ∀ block ∈ found, IsRange text block.start block.stop ∧
        slice text (block.start + byteSize startTag) (block.stop - byteSize endTag) =
          .ok block.source.toList := by
  by_cases hempty : startTag = [] ∨ endTag = []
  · obtain ⟨hrun, hlast⟩ := run_eq_nil_of_empty text hempty
    exact ⟨[], _, hrun, hlast, List.forall_mem_nil _⟩
  · obtain ⟨hstart, hend⟩ := not_or.1 hempty
    obtain ⟨found, last, hrun, hlast, hsections⟩ := exists_run text hstart hend
    have hscan := hsections.leftmostScan (List.nil_append text).symm byteSize_nil
    exact ⟨found, last, hrun, hlast, hscan.isRange⟩

/-- The second pass is assembled from pieces of the template and its replacements. -/
theorem exists_formatScripts_assembled (f : Formatter ω σ) (host : Host ω) (template : String)
    (bindings : Bindings ω) :
    ∃ found rendered,
      blocks template.toList f.config.scriptStart.toList f.config.scriptEnd.toList = .ok found ∧
      f.formatScripts host template bindings = .ok rendered ∧
      Assembled template.toList
        (renderBlocks host f.config.nullString f.factory bindings none found).result
        rendered.result.toList := by
  obtain ⟨found, -, out, hfound, -, -, -, hout⟩ := exists_rounds f host template bindings
  refine ⟨found, _, hfound, formatScripts_eq_of_spliced hfound hout, ?_⟩
  rw [String.toList_ofList]
  exact hout.assembled

end Script

namespace Formatter

/-- Rendering has an answer, since each of its passes has one for every text. -/
theorem exists_render (f : Formatter ω σ) (host : Host ω) (template : String)
    (bindings : Bindings ω) : ∃ rendered, f.render host template bindings = .ok rendered := by
  have hscripts := fun text => Script.exists_formatScripts_assembled f host text bindings
  obtain ⟨-, substituted, -, hsubstituted, -⟩ :=
    Placeholder.exists_formatProperties_assembled f host template bindings
  unfold render
  split
  · split
    · obtain ⟨-, scripted, -, hscripted, -⟩ := hscripts substituted.result
      simp only [hsubstituted, hscripted, bind, Except.bind]
      exact ⟨_, rfl⟩
    · obtain ⟨-, scripted, -, hscripted, -⟩ := hscripts template
      simp only [hscripted, bind, Except.bind]
      exact ⟨_, rfl⟩
  · split
    · rw [hsubstituted]
      exact ⟨substituted, rfl⟩
    · exact ⟨_, rfl⟩

/-! ## Main statement -/

/-- Whatever the template, the tags, the offset and the bindings are, nothing is cut but at a range
of bytes.  A cut fails just where its bounds are no range, and it tells them; a search finds what a
search of the bytes finds, and what it finds is a range.  Scans of placeholders and of sections come
to their ends, and what they yield lies at ranges.  Both passes answer, each with the bytes of the
pieces that its cursor leaves out and of the replacements, which together are valid UTF-8; and so
does rendering as a whole. -/
theorem render_cuts_at_ranges (f : Formatter ω σ) (host : Host ω) (template : String)
    (bindings : Bindings ω) :
    let text := template.toList
    (∀ (t : Text) (lower upper : Nat) (bad : BadRange), slice t lower upper = .error bad ↔
      ¬ IsRange t lower upper ∧ bad = ⟨lower, upper⟩) ∧
    (∀ (t : Text) (lower : Nat), sliceFrom t lower = slice t lower (byteSize t)) ∧
    (∀ (t tag : Text) (n : Nat), find? tag t = some n ↔
      BytesAt t tag n ∧ ∀ m, BytesAt t tag m → n ≤ m) ∧
    (∀ (t tag : Text) (n : Nat), BytesAt t tag n → tag ≠ [] → IsRange t n (n + byteSize tag)) ∧
    (∀ offset, ∃ found last,
      (Placeholder.Scanner.fromOffset text offset).run = .ok (found, last) ∧
      last.next = .ok (none, last) ∧
      ∀ span ∈ found, IsRange text span.opening span.stop ∧
        (∃ raw, span.raw text = .ok raw) ∧
        ∃ content, slice text (span.opening + byteSize Placeholder.openMarker) span.closing =
          .ok content ∧ Placeholder.Spells content span.content) ∧
    (∀ startTag endTag : Text, ∃ found last,
      (Script.Blocks.ofText text startTag endTag).run = .ok (found, last) ∧
      last.next = .ok (none, last) ∧
      ∀ block ∈ found, IsRange text block.start block.stop ∧
        slice text (block.start + byteSize startTag) (block.stop - byteSize endTag) =
          .ok block.source.toList) ∧
    (∃ found rendered, Placeholder.spans text = .ok found ∧
      f.formatProperties host template bindings = .ok rendered ∧
      Assembled text ((f.resolver host).select bindings 0 found).result
        rendered.result.toList) ∧
    (∃ found rendered,
      Script.blocks text f.config.scriptStart.toList f.config.scriptEnd.toList = .ok found ∧
      f.formatScripts host template bindings = .ok rendered ∧
      Assembled text
        (Script.renderBlocks host f.config.nullString f.factory bindings none found).result
        rendered.result.toList) ∧
    ∃ rendered, f.render host template bindings = .ok rendered ∧
      rendered.result.toByteArray.IsValidUTF8 := by
  intro text
  refine ⟨fun t lower upper bad => slice_eq_error_iff, fun t lower => sliceFrom_eq_slice,
    fun t tag n => find?_eq_some_iff_bytesAt, fun t tag n h hne => h.isRange hne, ?_,
    Script.exists_run_isRange text,
    Placeholder.exists_formatProperties_assembled f host template bindings,
    Script.exists_formatScripts_assembled f host template bindings, ?_⟩
  · intro offset
    obtain ⟨found, last, hrun, -, hmem, hlast⟩ :=
      Placeholder.Scanner.exists_run (Placeholder.Scanner.sound_fromOffset text offset)
    refine ⟨found, last, hrun, hlast, fun span hspan => ?_⟩
    have hoccurs : Placeholder.Occurs text span := ((hmem span).1 hspan).2.2
    exact ⟨hoccurs.isRange, exists_slice_iff.2 hoccurs.isRange, hoccurs.exists_content⟩
  · obtain ⟨rendered, hrendered⟩ := exists_render f host template bindings
    exact ⟨rendered, hrendered, rendered.result.isValidUTF8⟩

end Formatter

end TextTemplate
