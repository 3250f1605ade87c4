import TextTemplate.Script.Block
import TextTemplate.Proofs.Text.Splice
set_option autoImplicit false

/-!
# Sections: how a text is cut into script sections

The sections of a text are described by cuts alone: a section begins where the start tag first
occurs in what is left, and ends with the first end tag after that.  The search finds exactly these
(`exists_blocks`), and it never cuts at a position that is none.
-/

namespace TextTemplate.Script

open Text

variable {startTag endTag : Text}

/-- Where a section begins and ends. -/
def Block.bounds (b : Block) : Nat × Nat := (b.start, b.stop)

/-- A section as it is written. -/
def Block.raw (startTag endTag : Text) (b : Block) : Text := startTag ++ b.source.toList ++ endTag

/-- `block` is the first section of `rest`, which begins at byte `pos`, and `tail` follows it. -/
inductive FirstBlock (startTag endTag : Text) (pos : Nat) (rest : Text) : Block → Text → Prop where
  | intro {gap body source tail : Text} (opened : FirstCut startTag rest gap body)
      (closed : FirstCut endTag body source tail) :
      FirstBlock startTag endTag pos rest
        ⟨pos + byteSize gap,
          pos + byteSize gap + byteSize startTag + byteSize source + byteSize endTag,
          String.ofList source⟩ tail

/-- The sections of `rest`, which begins at byte `pos`: each is the first one of what the one before
it left, until there is none. -/
inductive Sections (startTag endTag : Text) : Nat → Text → List Block → Prop where
  | done {pos : Nat} {rest : Text}
      (none : ∀ block tail, ¬ FirstBlock startTag endTag pos rest block tail) :
      Sections startTag endTag pos rest []
  | block {pos : Nat} {rest tail : Text} {block : Block} {blocks : List Block}
      (first : FirstBlock startTag endTag pos rest block tail)
      (others : Sections startTag endTag block.stop tail blocks) :
      Sections startTag endTag pos rest (block :: blocks)

namespace FirstBlock

variable {pos : Nat} {rest tail : Text} {block : Block}

/-- A section is cut out of what is left: a gap, the section itself, and what follows. -/
theorem exists_cut (h : FirstBlock startTag endTag pos rest block tail) :
    ∃ gap, rest = gap ++ block.raw startTag endTag ++ tail ∧ pos + byteSize gap = block.start ∧
      block.start + byteSize (block.raw startTag endTag) = block.stop := by
  obtain @⟨gap, body, source, _, opened, closed⟩ := h
  refine ⟨gap, ?_, rfl, ?_⟩
  · rw [Block.raw, String.toList_ofList, opened.eq_append, closed.eq_append]
    simp only [List.append_assoc]
  · rw [Block.raw, String.toList_ofList]
    simp only [byteSize_append]
    omega

theorem byteSize_tail_lt (h : FirstBlock startTag endTag pos rest block tail)
    (hstart : startTag ≠ []) : byteSize tail < byteSize rest := by
  obtain ⟨opened, closed⟩ := h
  have hpos : byteSize startTag ≠ 0 := fun hzero => hstart (byteSize_eq_zero_iff.1 hzero)
  rw [opened.eq_append, closed.eq_append]
  simp only [byteSize_append]
  omega

end FirstBlock

/-- Any replacements of the sections can be carried out. -/
theorem Sections.exists_spliced {pos : Nat} {text before rest : Text} {found : List Block}
    {edits : List Edit} (h : Sections startTag endTag pos rest found)
    (htext : text = before ++ rest) (hpos : byteSize before = pos)
    (hbounds : edits.map Edit.bounds = found.map Block.bounds) :
    ∃ out, Spliced text pos edits out := by
  induction h generalizing before edits with
  | @done pos rest =>
    obtain rfl : edits = [] := List.map_eq_nil_iff.1 hbounds
    exact ⟨rest, .done htext hpos⟩
  | @block pos rest tail block found hfirst hothers ih =>
    obtain ⟨e, edits, rfl, he, hedits⟩ := List.map_eq_cons_iff.1 hbounds
    obtain ⟨hstart, hstop⟩ : e.start = block.start ∧ e.stop = block.stop := Prod.mk.inj he
    obtain ⟨gap, hrest, hgap, hraw⟩ := hfirst.exists_cut
    have hcut : text = before ++ gap ++ (block.raw startTag endTag ++ tail) := by
      rw [htext, hrest]
      simp only [List.append_assoc]
    have htail : text = (before ++ gap ++ block.raw startTag endTag) ++ tail := by
      rw [hcut, List.append_assoc (before ++ gap)]
    have hsize : byteSize (before ++ gap ++ block.raw startTag endTag) = block.stop := by
      rw [byteSize_append, byteSize_append, hpos, hgap, hraw]
    obtain ⟨out, hout⟩ := ih htail hsize hedits
    exact ⟨gap ++ e.replacement ++ out, .edit hcut hpos (by omega) (hstop ▸ hout)⟩

/-! ## The search -/

namespace Blocks

/-- What the search has not read yet. -/
def Left (b : Blocks) (rest : Text) : Prop := ∃ before, b.text = before ++ rest ∧
  byteSize before = b.pos

variable {b : Blocks} {rest : Text}

theorem Left.startFor_eq (h : b.Left rest) :
    b.startFor = (find? b.startTag rest).map (b.pos + ·) := by
  obtain ⟨before, htext, hpos⟩ := h
  have hafter : after? b.text b.pos = some rest := after?_eq_some_iff.2 ⟨before, htext, hpos⟩
  simp only [startFor, hafter, bind, pure, Option.bind_some]
  cases find? b.startTag rest <;> rfl

theorem next_eq_none_of_startFor (h : b.startFor = none) : b.next = .ok (none, b) := by
  unfold next
  split
  · rfl
  · rw [h]

/-- Nothing is left at the end of the text. -/
theorem next_eq_none_at_end (hstart : b.startTag ≠ []) :
    next { b with pos := byteSize b.text } = .ok (none, { b with pos := byteSize b.text }) := by
  have hleft : Left { b with pos := byteSize b.text } [] :=
    ⟨b.text, (List.append_nil _).symm, rfl⟩
  apply next_eq_none_of_startFor
  rw [hleft.startFor_eq]
  simp [find?, hstart]

/-- The search finds the first section of what is left, if there is one.  If there is none, it finds
none from then on. -/
theorem Left.exists_next (h : b.Left rest) (hstart : b.startTag ≠ []) (hend : b.endTag ≠ []) :
    (∃ block tail, FirstBlock b.startTag b.endTag b.pos rest block tail ∧
        b.next = .ok (some block, { b with pos := block.stop }) ∧
        Left { b with pos := block.stop } tail) ∨
      (∀ block tail, ¬ FirstBlock b.startTag b.endTag b.pos rest block tail) ∧
        ∃ b', b.next = .ok (none, b') ∧ b'.next = .ok (none, b') := by
  have htags : (b.startTag.isEmpty || b.endTag.isEmpty) = false := by
    simp [hstart, hend]
  have hstartFor := h.startFor_eq
  obtain ⟨before, htext, hpos⟩ := h
  unfold next
  rw [htags, hstartFor]
  cases hopen : find? b.startTag rest with
  | none =>
    have hnone : b.startFor = none := by rw [hstartFor, hopen, Option.map_none]
    refine .inr ⟨?_, b, rfl, next_eq_none_of_startFor hnone⟩
    rintro block tail ⟨opened, closed⟩
    exact find?_eq_none_iff.1 hopen _ _ opened.eq_append
  | some offset =>
    obtain ⟨gap, body, opened, hgap⟩ := find?_eq_some_iff.1 hopen
    have hbody : sliceFrom b.text (b.pos + offset + byteSize b.startTag) = .ok body := by
      refine sliceFrom_eq_ok_iff.2 ⟨before ++ gap ++ b.startTag, ?_, ?_⟩
      · rw [htext, opened.eq_append]
        simp only [List.append_assoc]
      · simp only [byteSize_append, hpos, hgap]
    simp only [Option.map_some, hbody, bind, Except.bind, pure, Except.pure]
    cases hclose : find? b.endTag body with
    | none =>
      refine .inr ⟨?_, { b with pos := byteSize b.text }, rfl, next_eq_none_at_end hstart⟩
      rintro block tail ⟨opened', closed'⟩
      obtain ⟨rfl, rfl⟩ := opened.unique opened'
      exact find?_eq_none_iff.1 hclose _ _ closed'.eq_append
    | some size =>
      obtain ⟨source, tail, closed, hsource⟩ := find?_eq_some_iff.1 hclose
      have hslice : slice b.text (b.pos + offset + byteSize b.startTag)
          (b.pos + offset + byteSize b.startTag + size) = .ok source := by
        refine slice_eq_ok_iff.2
          ⟨before ++ gap ++ b.startTag, b.endTag ++ tail, ?_, ?_, by rw [hsource]⟩
        · rw [htext, opened.eq_append, closed.eq_append]
          simp only [List.append_assoc]
        · simp only [byteSize_append, hpos, hgap]
      subst hgap hsource
      refine .inl ⟨_, tail, .intro opened closed, ?_, ?_⟩
      · simp only [hslice, Bool.false_eq_true, if_false]
      · refine ⟨before ++ gap ++ b.startTag ++ source ++ b.endTag, ?_, ?_⟩
        · rw [htext, opened.eq_append, closed.eq_append]
          simp only [List.append_assoc]
        · simp only [byteSize_append, hpos]

/-- Fuel for every byte that is left is enough to find all sections. -/
theorem Left.exists_runWithin {fuel : Nat} (h : b.Left rest) (hstart : b.startTag ≠ [])
    (hend : b.endTag ≠ []) (hfuel : byteSize rest < fuel) :
    ∃ found b', b.runWithin fuel = .ok (found, b') ∧ b'.next = .ok (none, b') ∧
      Sections b.startTag b.endTag b.pos rest found := by
  induction fuel generalizing b rest with
  | zero => omega
  | succ fuel ih =>
    unfold runWithin
    rcases h.exists_next hstart hend with
      ⟨block, tail, hfirst, hnext, hleft⟩ | ⟨hnone, b', hnext, hlast⟩
    · have hlt := hfirst.byteSize_tail_lt hstart
      obtain ⟨found, b', hrun, hlast, hsections⟩ := ih hleft hstart hend (by omega)
      refine ⟨block :: found, b', ?_, hlast, .block hfirst hsections⟩
      simp only [hnext, hrun, bind, Except.bind, pure, Except.pure]
    · refine ⟨[], b', ?_, hlast, .done hnone⟩
      simp only [hnext, bind, Except.bind, pure, Except.pure]

end Blocks

/-- With tags that are not empty the search finds the sections of the whole text, and none after
them. -/
theorem exists_run (text : Text) (hstart : startTag ≠ []) (hend : endTag ≠ []) :
    ∃ found last, (Blocks.ofText text startTag endTag).run = .ok (found, last) ∧
      last.next = .ok (none, last) ∧ Sections startTag endTag 0 text found := by
  have hleft : (Blocks.ofText text startTag endTag).Left text := ⟨[], rfl, rfl⟩
  have hfuel : byteSize text < byteSize text + 1 - 0 := Nat.lt_succ_self _
  exact hleft.exists_runWithin hstart hend hfuel

theorem blocks_eq_of_run {text : Text} {found : List Block} {last : Blocks}
    (h : (Blocks.ofText text startTag endTag).run = .ok (found, last)) :
    blocks text startTag endTag = .ok found := by
  simp only [blocks, h, bind, Except.bind, pure, Except.pure]

theorem exists_blocks (text : Text) (hstart : startTag ≠ []) (hend : endTag ≠ []) :
    ∃ found, blocks text startTag endTag = .ok found ∧ Sections startTag endTag 0 text found := by
  obtain ⟨found, last, hrun, -, hsections⟩ := exists_run text hstart hend
  exact ⟨found, blocks_eq_of_run hrun, hsections⟩

/-- With an empty tag the search is at its end from the start. -/
theorem run_eq_nil_of_empty (text : Text) (h : startTag = [] ∨ endTag = []) :
    (Blocks.ofText text startTag endTag).run = .ok ([], Blocks.ofText text startTag endTag) ∧
      (Blocks.ofText text startTag endTag).next =
        .ok (none, Blocks.ofText text startTag endTag) := by
  have htags : (startTag.isEmpty || endTag.isEmpty) = true := by
    rcases h with rfl | rfl <;> simp
  have hnext : (Blocks.ofText text startTag endTag).next =
      .ok (none, Blocks.ofText text startTag endTag) := by
    rw [Blocks.next]
    exact if_pos htags
  have hrun : (Blocks.ofText text startTag endTag).runWithin (byteSize text + 1) =
      .ok ([], Blocks.ofText text startTag endTag) := by
    rw [Blocks.runWithin, hnext]
    rfl
  exact ⟨hrun, hnext⟩

/-- With an empty tag there is no section. -/
theorem blocks_eq_nil_of_empty (text : Text) (h : startTag = [] ∨ endTag = []) :
    blocks text startTag endTag = .ok [] :=
  blocks_eq_of_run (run_eq_nil_of_empty text h).1

/-- The search of a text has an end, and any replacements of what it finds can be carried out. -/
theorem exists_blocks_spliced (text startTag endTag : Text) :
    ∃ found, blocks text startTag endTag = .ok found ∧ ∀ edits : List Edit,
      edits.map Edit.bounds = found.map Block.bounds → ∃ out, Spliced text 0 edits out := by
  by_cases h : startTag = [] ∨ endTag = []
  · refine ⟨[], blocks_eq_nil_of_empty text h, fun edits hedits => ?_⟩
    obtain rfl : edits = [] := List.map_eq_nil_iff.1 hedits
    exact ⟨text, .done (List.nil_append text).symm byteSize_nil⟩
  · obtain ⟨hstart, hend⟩ := not_or.1 h
    obtain ⟨found, hfound, hsections⟩ := exists_blocks text hstart hend
    exact ⟨found, hfound, fun edits hedits =>
      hsections.exists_spliced (List.nil_append text).symm byteSize_nil hedits⟩

end TextTemplate.Script
