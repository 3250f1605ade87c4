import TextTemplate.Proofs.Fixture.Rehearsal
import TextTemplate.Proofs.Script.Rounds
set_option autoImplicit false

/-!
# Assembly: a text as gaps and sections

`LeftmostScan` says by positions in the text what its script sections are: each starts where the
start tag first stands at or after the end of the one before, and ends with the first end tag after
that.  The search finds just these (`Sections.leftmostScan`, `LeftmostScan.unique`).  With every
section put back as it is written they spell the text, and with every section replaced by what its
script gave they spell the result of the second pass.
-/

namespace TextTemplate.Script

open Fixture (noObjects)
open Text

variable {ω σ : Type} {text startTag endTag : Text}

/-- The sections of `text` from byte `pos` on, from left to right.  There are no more when there is
no further start tag, or no end tag after it. -/
inductive LeftmostScan (text startTag endTag : Text) : Nat → List Block → Prop where
  | done {pos : Nat}
      (unclosed : ∀ start, FirstAt text startTag pos start →
        ∀ stop, start + byteSize startTag ≤ stop → ¬ StandsAt text endTag stop) :
      LeftmostScan text startTag endTag pos []
  | block {pos sourceStop : Nat} {block : Block} {blocks : List Block}
      (opened : FirstAt text startTag pos block.start)
      (closed : FirstAt text endTag (block.start + byteSize startTag) sourceStop)
      (source : slice text (block.start + byteSize startTag) sourceStop = .ok block.source.toList)
      (stop : block.stop = sourceStop + byteSize endTag)
      (others : LeftmostScan text startTag endTag block.stop blocks) :
      LeftmostScan text startTag endTag pos (block :: blocks)

/-- A section put back as it is written. -/
def Block.kept (startTag endTag : Text) (b : Block) : Edit :=
  ⟨b.start, b.stop, b.raw startTag endTag⟩

namespace Sections

variable {pos : Nat} {before rest : Text} {found : List Block}

/-- The sections are those of the leftmost scan. -/
theorem leftmostScan (h : Sections startTag endTag pos rest found) (htext : text = before ++ rest)
    (hpos : byteSize before = pos) : LeftmostScan text startTag endTag pos found := by
  induction h generalizing before with
  | @done pos rest none =>
    subst htext hpos
    refine .done fun start hstart stop hle hstands => ?_
    -- An end tag behind the first start tag would close a section.
    obtain ⟨gap, body, hopened, hgap⟩ := hstart.exists_firstCut
    have hbody : before ++ rest = (before ++ gap ++ startTag) ++ body := by
      rw [hopened.eq_append]
      simp only [List.append_assoc]
    have hsize : byteSize (before ++ gap ++ startTag) = start + byteSize startTag := by
      rw [byteSize_append, byteSize_append, hgap]
    rw [hbody] at hstands
    obtain ⟨n, -, hclosed⟩ := hstands.exists_firstAt (hsize ▸ hle)
    obtain ⟨source, tail, hclosed, -⟩ := hclosed.exists_firstCut
    exact none _ _ (.intro hopened hclosed)
  | @block pos rest tail block found first others ih =>
    obtain @⟨gap, body, source, _, hopened, hclosed⟩ := first
    subst htext hpos
    have hbody : before ++ rest = (before ++ gap ++ startTag) ++ body := by
      rw [hopened.eq_append]
      simp only [List.append_assoc]
    have hsource : before ++ rest = (before ++ gap ++ startTag) ++ source ++ (endTag ++ tail) := by
      rw [hbody, hclosed.eq_append]
      simp only [List.append_assoc]
    have htail : before ++ rest = (before ++ gap ++ startTag ++ source ++ endTag) ++ tail := by
      rw [hsource, List.append_assoc _ endTag]
    have hsize : byteSize (before ++ gap ++ startTag) =
        byteSize before + byteSize gap + byteSize startTag := by
      rw [byteSize_append, byteSize_append]
    have hfirst := hclosed.firstAt (before ++ gap ++ startTag)
    rw [← hbody, hsize] at hfirst
    refine .block (hopened.firstAt before) hfirst ?_ rfl (ih htail ?_)
    · rw [String.toList_ofList]
      exact slice_eq_ok_iff.2 ⟨_, _, hsource, hsize, rfl⟩
    · rw [byteSize_append, byteSize_append, hsize]

/-- With every section put back as it is written, the text is as before. -/
theorem spliced_kept (h : Sections startTag endTag pos rest found) (htext : text = before ++ rest)
    (hpos : byteSize before = pos) :
    Spliced text pos (found.map (Block.kept startTag endTag)) rest := by
  induction h generalizing before with
  | done none => exact .done htext hpos
  | @block pos rest tail block found first others ih =>
    obtain ⟨gap, hrest, hgap, hraw⟩ := first.exists_cut
    have hcut : text = before ++ gap ++ (block.raw startTag endTag ++ tail) := by
      rw [htext, hrest]
      simp only [List.append_assoc]
    have htail : text = (before ++ gap ++ block.raw startTag endTag) ++ tail := by
      rw [hcut, List.append_assoc (before ++ gap)]
    have hsize : byteSize (before ++ gap ++ block.raw startTag endTag) = block.stop := by
      rw [byteSize_append, byteSize_append, hpos, hgap, hraw]
    rw [hrest]
    exact .edit hcut hpos hgap (ih htail hsize)

end Sections

namespace LeftmostScan

variable {pos : Nat} {found other : List Block}

/-- A text has one leftmost scan. -/
theorem unique (h : LeftmostScan text startTag endTag pos found)
    (h' : LeftmostScan text startTag endTag pos other) : other = found := by
  induction h generalizing other with
  | @done pos unclosed =>
    cases h' with
    | done => rfl
    | @block _ sourceStop block blocks opened closed source stop others =>
      exact absurd closed.stands (unclosed _ opened _ closed.le)
  | @block pos sourceStop block blocks opened closed source stop others ih =>
    cases h' with
    | done unclosed => exact absurd closed.stands (unclosed _ opened _ closed.le)
    | @block _ sourceStop' block' blocks' opened' closed' source' stop' others' =>
      have hstart : block'.start = block.start := opened'.unique opened
      rw [hstart] at closed' source'
      obtain rfl : sourceStop' = sourceStop := closed'.unique closed
      have hsource : block'.source = block.source := by
        rw [source] at source'
        exact (String.toList_inj.1 (Except.ok.inj source')).symm
      obtain rfl : block' = block := by
        cases block
        cases block'
        simp only [Block.mk.injEq]
        exact ⟨hstart, stop'.trans stop.symm, hsource⟩
      rw [ih others']

/-- The sections lie one after the other. -/
theorem apart (h : LeftmostScan text startTag endTag pos found) :
    (∀ b ∈ found, pos ≤ b.start) ∧ found.Pairwise (fun b b' => b.stop ≤ b'.start) ∧
      ∀ b ∈ found, b.start + byteSize (b.raw startTag endTag) = b.stop := by
  induction h with
  | done unclosed => simp
  | @block pos sourceStop block blocks opened closed source stop others ih =>
    obtain ⟨hafter, hpairwise, hsizes⟩ := ih
    obtain ⟨before, rest, -, hbefore, hsource⟩ := slice_eq_ok_iff.1 source
    have hsize : block.start + byteSize (block.raw startTag endTag) = block.stop := by
      rw [Block.raw, byteSize_append, byteSize_append, stop]
      omega
    refine ⟨?_, List.pairwise_cons.2 ⟨hafter, hpairwise⟩, List.forall_mem_cons.2 ⟨hsize, hsizes⟩⟩
    intro b hb
    rcases List.mem_cons.1 hb with rfl | hb
    · exact opened.le
    · have hle := hafter b hb
      have hopened := opened.le
      omega

/-- No start tag with an end tag after it is left behind the last section. -/
theorem not_standsAt_of_after (h : LeftmostScan text startTag endTag pos found) {start stop : Nat}
    (hpos : pos ≤ start) (hafter : ∀ b ∈ found, b.stop ≤ start)
    (hstart : StandsAt text startTag start) (hstop : start + byteSize startTag ≤ stop) :
    ¬ StandsAt text endTag stop := by
  induction h with
  | done unclosed =>
    obtain ⟨first, hle, hfirst⟩ := hstart.exists_firstAt hpos
    exact unclosed first hfirst stop (by omega)
  | block opened closed source stop others ih =>
    obtain ⟨hblock, hblocks⟩ := List.forall_mem_cons.1 hafter
    exact ih hblock hblocks

end LeftmostScan

/-- Without sections the second pass changes nothing. -/
theorem formatScripts_of_empty_tag (f : Formatter ω σ) (host : Host ω) (template : String)
    (bindings : Bindings ω) (h : f.config.scriptStart = "" ∨ f.config.scriptEnd = "") :
    f.formatScripts host template bindings = .ok ⟨[], template⟩ := by
  have htags : f.config.scriptStart.toList = [] ∨ f.config.scriptEnd.toList = [] := by
    simpa using h
  have hall : splice template.toList 0 [] = .ok template.toList :=
    splice_eq_ok_iff.2 (.done (List.nil_append _).symm byteSize_nil)
  simp only [Formatter.formatScripts, blocks_eq_nil_of_empty _ htags, renderBlocks, hall, bind,
    Except.bind, pure, Except.pure, Logged.pure, String.ofList_toList]

/-- With tags that are not empty, the sections are those of the leftmost scan, and the search finds
none after them.  They lie one after the other, no complete section is left behind the last one, and
the text is the gaps and the sections as they are written.  The second pass answers the same gaps,
with each section replaced by what it gave.  With an empty tag it answers the template. -/
theorem formatScripts_assembles (f : Formatter ω σ) (host : Host ω) (template : String)
    (bindings : Bindings ω) :
    let text := template.toList
    let startTag := f.config.scriptStart.toList
    let endTag := f.config.scriptEnd.toList
    (f.config.scriptStart ≠ "" → f.config.scriptEnd ≠ "" →
      ∃ rounds found last rendered,
        (Blocks.ofText text startTag endTag).run = .ok (found, last) ∧
        last.next = .ok (none, last) ∧
        (∀ other, LeftmostScan text startTag endTag 0 other ↔ other = found) ∧
        found.Pairwise (fun b b' => b.stop ≤ b'.start) ∧
        (∀ b ∈ found, b.start + byteSize (b.raw startTag endTag) = b.stop) ∧
        (∀ start stop, (∀ b ∈ found, b.stop ≤ start) → StandsAt text startTag start →
          start + byteSize startTag ≤ stop → ¬ StandsAt text endTag stop) ∧
        Spliced text 0 (found.map (Block.kept startTag endTag)) text ∧
        f.formatScripts host template bindings = .ok rendered ∧
        rounds.map Round.block = found ∧
        Protocol bindings f.factory rounds rendered.events ∧
        Spliced text 0 (rounds.map (Round.edit host f.config.nullString))
          rendered.result.toList) ∧
    (f.config.scriptStart = "" ∨ f.config.scriptEnd = "" →
      f.formatScripts host template bindings = .ok ⟨[], template⟩) := by
  intro text startTag endTag
  refine ⟨fun hstart hend => ?_, formatScripts_of_empty_tag f host template bindings⟩
  have hstartTag : startTag ≠ [] := by simpa [startTag] using hstart
  have hendTag : endTag ≠ [] := by simpa [endTag] using hend
  obtain ⟨found, last, hrun, hlast, hsections⟩ := exists_run text hstartTag hendTag
  have hscan : LeftmostScan text startTag endTag 0 found :=
    hsections.leftmostScan (List.nil_append text).symm byteSize_nil
  obtain ⟨-, hpairwise, hsizes⟩ := hscan.apart
  obtain ⟨rounds, rendered, hfound, hrendered, hprotocol, hspliced⟩ :=
    exists_formatScripts f host template bindings
  obtain rfl : found = rounds.map Round.block :=
    Except.ok.inj ((blocks_eq_of_run hrun).symm.trans hfound)
  refine ⟨rounds, _, last, rendered, hrun, hlast, fun other => ⟨hscan.unique, ?_⟩, hpairwise,
    hsizes, ?_, hsections.spliced_kept (List.nil_append text).symm byteSize_nil, hrendered, rfl,
    hprotocol, hspliced⟩
  · rintro rfl
    exact hscan
  · intro start stop hafter hstands hstop
    exact hscan.not_standsAt_of_after (Nat.zero_le _) hafter hstands hstop

/-- The tags `aa` and `a` overlap in `xaaa-aab`: the third `a` closes the one section, and the start
tag behind it stays open. -/
theorem formatScripts_assembles_overlapping :
    let f : Formatter Empty Unit :=
      ⟨{ scriptStart := "aa", scriptEnd := "a" }, ValueFormatter.display noObjects, none⟩
    let unmarked : Formatter Empty Unit := { f with config := { f.config with scriptEnd := "" } }
    (∀ other, LeftmostScan "xaaa-aab".toList "aa".toList "a".toList 0 other ↔
        other = [⟨1, 4, ""⟩]) ∧
      (∃ (rounds : List (Round Empty)) (rendered : Logged Empty String),
        f.formatScripts noObjects "xaaa-aab" (Bindings.ofList []) = .ok rendered ∧
        rounds.map Round.block = [⟨1, 4, ""⟩] ∧
        Spliced "xaaa-aab".toList 0 (rounds.map (Round.edit noObjects f.config.nullString))
          rendered.result.toList) ∧
      unmarked.formatScripts noObjects "xaaa-aab" (Bindings.ofList []) = .ok ⟨[], "xaaa-aab"⟩ := by
  intro f unmarked
  obtain ⟨rounds, found, last, rendered, hrun, -, hscan, -, -, -, -, hrendered, hrounds, -,
    hspliced⟩ :=
    (formatScripts_assembles f noObjects "xaaa-aab" (Bindings.ofList [])).1 (by decide) (by decide)
  have hfound : (Blocks.ofText "xaaa-aab".toList "aa".toList "a".toList).run =
      .ok ([⟨1, 4, ""⟩], ⟨"xaaa-aab".toList, "aa".toList, "a".toList, 8⟩) := rfl
  obtain rfl : found = [⟨1, 4, ""⟩] := (Prod.mk.inj (Except.ok.inj (hrun.symm.trans hfound))).1
  exact ⟨hscan, ⟨rounds, rendered, hrendered, hrounds, hspliced⟩,
    (formatScripts_assembles unmarked noObjects "xaaa-aab" (Bindings.ofList [])).2 (.inr rfl)⟩

end TextTemplate.Script
