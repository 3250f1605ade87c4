import TextTemplate.Proofs.Placeholder.Occurrence
set_option autoImplicit false

/-!
# Scan: the scanner yields the placeholders of a text

A scan remembers where it found the next close marker and the next dot.  `Sound` says what makes
that safe: a remembered position holds the first of the characters looked for, counted from no later
than the content that the scan comes to next.  Every step keeps it (`exists_step`) and takes one
placeholder off those that are still ahead, or none.  A run therefore yields exactly the
placeholders ahead of the scan, in the order of their open markers (`exists_run`).
-/

namespace TextTemplate.Placeholder.Scanner

open Text

/-! ## Remembered positions -/

/-- Byte `n` of `text` holds one of `stops`, and none of them stands between byte `start` and it. -/
inductive FirstOf (text : Text) (stops : List Char) (start n : Nat) : Prop where
  | intro (before gap : Text) (c : Char) (rest : Text) (text_eq : text = before ++ gap ++ c :: rest)
      (before_le : byteSize before ≤ start) (n_eq : byteSize before + byteSize gap = n)
      (mem : c ∈ stops) (free : ∀ x ∈ gap, x ∉ stops)

theorem FirstOf.mono {text : Text} {stops : List Char} {start start' n : Nat}
    (h : FirstOf text stops start n) (hle : start ≤ start') : FirstOf text stops start' n := by
  obtain ⟨before, gap, c, rest, htext, hbefore, hn, hmem, hfree⟩ := h
  exact ⟨before, gap, c, rest, htext, Nat.le_trans hbefore hle, hn, hmem, hfree⟩

/-- A remembered position that is not passed yet is the first stop of the rest of the text. -/
theorem FirstOf.exists_cut {before rest : Text} {stops : List Char} {start n : Nat}
    (h : FirstOf (before ++ rest) stops start n) (hstart : start ≤ byteSize before)
    (hn : byteSize before ≤ n) :
    ∃ gap c tail, rest = gap ++ c :: tail ∧ byteSize before + byteSize gap = n ∧ c ∈ stops ∧
      ∀ x ∈ gap, x ∉ stops := by
  obtain ⟨before', gap, c, tail, htext, hbefore, hsize, hmem, hfree⟩ := h
  have hcut : before' ++ (gap ++ c :: tail) = before ++ rest := by simp [htext]
  obtain ⟨passed, rfl, hgap⟩ := exists_append_of_byteSize_le hcut (Nat.le_trans hbefore hstart)
  rw [byteSize_append] at hn
  obtain ⟨left, rfl, hrest⟩ := exists_append_of_byteSize_le hgap.symm (by omega)
  refine ⟨left, c, tail, hrest, ?_, hmem, fun x hx => hfree x (List.mem_append_right passed hx)⟩
  rw [byteSize_append] at hsize ⊢
  omega

theorem FirstOf.exists_standsAt {text : Text} {stops : List Char} {start n : Nat}
    (h : FirstOf text stops start n) : ∃ c ∈ stops, StandsAt text [c] n := by
  obtain ⟨before, gap, c, rest, htext, -, hn, hc, -⟩ := h
  exact ⟨c, hc, before ++ gap, rest, by simp [htext], by rw [byteSize_append, hn]⟩

/-- None of the characters looked for stands before the first of them. -/
theorem FirstOf.le_of_standsAt {text : Text} {stops : List Char} {start n m : Nat} {c : Char}
    (h : FirstOf text stops start n) (hc : c ∈ stops) (hle : start ≤ m)
    (hstands : StandsAt text [c] m) : n ≤ m := by
  obtain ⟨before, gap, d, rest, rfl, hbefore, rfl, -, hfree⟩ := h
  rw [List.append_assoc] at hstands
  obtain ⟨gap', tail, hcut, rfl⟩ := hstands.exists_cut (Nat.le_trans hbefore hle)
  rcases Nat.lt_or_ge (byteSize gap') (byteSize gap) with hlt | hge
  · have hcut' : gap' ++ (c :: tail) = gap ++ d :: rest := by simpa using hcut.symm
    obtain ⟨between, rfl, hbetween⟩ := exists_append_of_byteSize_le hcut' (Nat.le_of_lt hlt)
    cases between with
    | nil => simp at hlt
    | cons x between =>
      obtain ⟨rfl, -⟩ := List.cons.inj hbetween
      exact absurd hc (hfree c (by simp))
  · omega

theorem FirstOf.firstAt {text : Text} {c : Char} {start start' n : Nat}
    (h : FirstOf text [c] start n) (hle : start ≤ start') (hn : start' ≤ n) :
    FirstAt text [c] start' n := by
  obtain ⟨c', hc', hstands⟩ := h.exists_standsAt
  obtain rfl : c' = c := List.mem_singleton.1 hc'
  exact ⟨hn, hstands, fun m hm => h.le_of_standsAt hc' (Nat.le_trans hle hm)⟩

/-- What a scan remembers is right for every content that starts past its position. -/
structure Sound (s : Scanner) : Prop where
  close : ∀ n, s.nextClose = some n → FirstOf s.text ['}'] (s.pos + 1) n
  dot : ∀ n, s.nextDot = some n → FirstOf s.text ['.', '}'] (s.pos + 1) n

theorem sound_fromOffset (text : Text) (offset : Nat) : (fromOffset text offset).Sound :=
  ⟨by simp [fromOffset], by simp [fromOffset]⟩

theorem Sound.moveTo {s : Scanner} {pos : Nat} (h : s.Sound) (hle : s.pos ≤ pos) :
    Sound { s with pos } :=
  ⟨fun n hn => (h.close n hn).mono (by simpa using hle),
    fun n hn => (h.dot n hn).mono (by simpa using hle)⟩

theorem usable?_eq_some_iff {remembered : Option Nat} {start n : Nat} :
    usable? remembered start = some n ↔ remembered = some n ∧ start ≤ n := by
  simp [usable?, Option.filter_eq_some_iff]

/-- With or without a remembered position, `closeFor` answers the first close marker. -/
theorem exists_closeFor {s : Scanner} {before rest : Text} (h : s.Sound)
    (htext : s.text = before ++ rest) (hpos : byteSize before = s.pos + 1) :
    ∃ s', s.closeFor (byteSize before) =
        .ok ((find? closeMarker rest).map (byteSize before + ·), s') ∧
      s'.text = s.text ∧ s'.pos = s.pos ∧ s'.Sound := by
  unfold closeFor
  cases husable : usable? s.nextClose (byteSize before) with
  | some n =>
    obtain ⟨hclose, hle⟩ := usable?_eq_some_iff.1 husable
    have hfirst := h.close n hclose
    rw [htext] at hfirst
    obtain ⟨gap, c, tail, hrest, hn, hc, hfree⟩ := hfirst.exists_cut (Nat.le_of_eq hpos.symm) hle
    obtain rfl : c = '}' := by simpa using hc
    have hfind : find? closeMarker rest = some (byteSize gap) :=
      find?_singleton_eq_some_iff.2 ⟨gap, tail, hrest, fun hx => hfree _ hx (by simp), rfl⟩
    exact ⟨s, by simp [hfind, hn], rfl, rfl, h⟩
  | none =>
    have hslice : sliceFrom s.text (byteSize before) = .ok rest :=
      sliceFrom_eq_ok_iff.2 ⟨before, htext, rfl⟩
    cases hfind : find? closeMarker rest with
    | none => exact ⟨s, by simp [hslice, hfind, bind, Except.bind, pure, Except.pure], rfl, rfl, h⟩
    | some size =>
      obtain ⟨gap, tail, hrest, hunclosed, hsize⟩ := find?_singleton_eq_some_iff.1 hfind
      refine ⟨{ s with nextClose := some (byteSize before + size) },
        by simp [hslice, hfind, bind, Except.bind, pure, Except.pure], rfl, rfl, ?_, h.dot⟩
      rintro n ⟨⟩
      exact ⟨before, gap, '}', tail, by simp [htext, hrest], Nat.le_of_eq hpos, by rw [hsize],
        by simp, fun x hx hstop => hunclosed (by simpa using List.mem_singleton.1 hstop ▸ hx)⟩

/-- The first dot of a content text, as a position in the text around it; the position of the close
marker if it has none. -/
def dotPosition (start closing : Nat) (content : Text) : Nat :=
  match find? [separator] content with
  | some offset => start + offset
  | none => closing

/-- A dot or close marker that is the first of both after the start of a content text is where the
search for a dot in that content ends. -/
theorem dotPosition_eq_of_first {content rest gap tail : Text} {c : Char} {start : Nat}
    (hcut : content ++ '}' :: rest = gap ++ c :: tail) (hunclosed : '}' ∉ content)
    (hc : c ∈ ['.', '}']) (hfree : ∀ x ∈ gap, x ∉ ['.', '}']) :
    dotPosition start (start + byteSize content) content = start + byteSize gap := by
  have hgapClose : '}' ∉ gap := fun hx => hfree _ hx (by simp)
  have hgapDot : separator ∉ gap := fun hx => hfree _ hx (by simp [separator])
  have hcases : c = '.' ∨ c = '}' := by simpa using hc
  rcases hcases with rfl | rfl
  · -- The dot stands before the close marker, for no close marker stands before the dot.
    obtain ⟨left, hcontent⟩ : ∃ left, content = gap ++ '.' :: left := by
      rcases List.append_eq_append_iff.1 hcut with ⟨m, hgap, hm⟩ | ⟨m, hcontent, hm⟩
      · cases m with
        | nil => simp at hm
        | cons x m =>
          obtain ⟨rfl, -⟩ := List.cons.inj hm
          simp [hgap] at hgapClose
      · cases m with
        | nil => simp at hm
        | cons x m =>
          obtain ⟨rfl, -⟩ := List.cons.inj hm
          exact ⟨m, hcontent⟩
    have hfind : find? [separator] content = some (byteSize gap) :=
      find?_singleton_eq_some_iff.2 ⟨gap, left, hcontent, hgapDot, rfl⟩
    simp [dotPosition, hfind]
  · obtain ⟨rfl, -⟩ := append_cons_inj_of_not_mem hcut hunclosed hgapClose
    have hfind : find? [separator] content = none := find?_singleton_eq_none_iff.2 hgapDot
    simp [dotPosition, hfind]

/-- With or without a remembered position, `dotFor` answers the first dot of the content. -/
theorem exists_dotFor {s : Scanner} {before content rest : Text} (h : s.Sound)
    (htext : s.text = before ++ content ++ '}' :: rest) (hunclosed : '}' ∉ content)
    (hpos : byteSize before = s.pos + 1) :
    ∃ s', s.dotFor (byteSize before) (byteSize before + byteSize content) =
        .ok (dotPosition (byteSize before) (byteSize before + byteSize content) content, s') ∧
      s'.text = s.text ∧ s'.pos = s.pos ∧ s'.Sound := by
  unfold dotFor
  cases husable : usable? s.nextDot (byteSize before) with
  | some n =>
    obtain ⟨hdot, hle⟩ := usable?_eq_some_iff.1 husable
    have hfirst := h.dot n hdot
    rw [htext, List.append_assoc] at hfirst
    obtain ⟨gap, c, tail, hcut, hn, hc, hfree⟩ := hfirst.exists_cut (Nat.le_of_eq hpos.symm) hle
    refine ⟨s, ?_, rfl, rfl, h⟩
    rw [dotPosition_eq_of_first hcut hunclosed hc hfree, hn]
  | none =>
    have hslice : slice s.text (byteSize before) (byteSize before + byteSize content) =
        .ok content :=
      slice_eq_ok_iff.2 ⟨before, '}' :: rest, htext, rfl, rfl⟩
    have hnotStop : ∀ x ∈ content, x ∉ ['}'] := fun x hx hstop =>
      hunclosed (List.mem_singleton.1 hstop ▸ hx)
    let dot := dotPosition (byteSize before) (byteSize before + byteSize content) content
    refine ⟨{ s with nextDot := some dot }, ?_, rfl, rfl, h.close, ?_⟩
    · rw [hslice]
      cases hfind : find? [separator] content <;> simp [dot, dotPosition, hfind, bind, Except.bind,
        pure, Except.pure]
    · rintro n ⟨⟩
      cases hfind : find? [separator] content with
      | none =>
        have hundotted : separator ∉ content := find?_singleton_eq_none_iff.1 hfind
        refine ⟨before, content, '}', rest, htext, Nat.le_of_eq hpos,
          by simp [dot, dotPosition, hfind], by simp, fun x hx hstop => ?_⟩
        have hcases : x = '.' ∨ x = '}' := by simpa using hstop
        rcases hcases with rfl | rfl
        · exact hundotted hx
        · exact hunclosed hx
      | some offset =>
        obtain ⟨root, continuation, rfl, hundotted, rfl⟩ := find?_singleton_eq_some_iff.1 hfind
        refine ⟨before, root, '.', continuation ++ '}' :: rest, by simp [htext, separator],
          Nat.le_of_eq hpos, by simp [dot, dotPosition, hfind], by simp, fun x hx hstop => ?_⟩
        have hcases : x = '.' ∨ x = '}' := by simpa using hstop
        rcases hcases with rfl | rfl
        · exact hundotted hx
        · exact hunclosed (List.mem_append_left _ hx)

/-- Where the content ends and where the dot lies give `classify` the offset of the first dot. -/
theorem offset_dotPosition (start : Nat) (content : Text) :
    (if dotPosition start (start + byteSize content) content < start + byteSize content then
        some (dotPosition start (start + byteSize content) content - start) else none) =
      find? [separator] content := by
  cases hfind : find? [separator] content with
  | none => simp [dotPosition, hfind]
  | some offset =>
    obtain ⟨root, continuation, rfl, -, rfl⟩ := find?_singleton_eq_some_iff.1 hfind
    simp [dotPosition, hfind]

/-! ## What is ahead -/

/-- `span` stands at or after the position of the scan, which lies between characters. -/
def Ahead (s : Scanner) (span : Span) : Prop :=
  IsBoundary s.text s.pos ∧ s.pos ≤ span.opening ∧ Occurs s.text span

/-- One byte past the first open marker, what is ahead is all that was but what opens there. -/
theorem ahead_iff_of_first {s s' : Scanner} {before rest gap tail : Text}
    (htext : s.text = before ++ rest) (hpos : byteSize before = s.pos)
    (hfirst : FirstCut openMarker rest gap tail) (htext' : s'.text = s.text)
    (hpos' : s'.pos = s.pos + byteSize gap + 1) (span : Span) :
    s.Ahead span ↔
      (Occurs s.text span ∧ span.opening = s.pos + byteSize gap) ∨ s'.Ahead span := by
  constructor
  · rintro ⟨-, hle, hoccurs⟩
    have hcut := hoccurs
    rw [htext] at hcut
    obtain ⟨gap', content, tail', hrest, hopening⟩ := hcut.exists_cut (hpos ▸ hle)
    have hgap : byteSize gap ≤ byteSize gap' :=
      hfirst.first gap' (content ++ closeMarker ++ tail') (by simp [hrest])
    rcases Nat.eq_or_lt_of_le hgap with heq | hlt
    · exact .inl ⟨hoccurs, by rw [heq, ← hopening, hpos]⟩
    · have hboundary : IsBoundary s'.text s'.pos := by
        refine ⟨before ++ gap ++ ['$'], '{' :: tail, ?_, ?_⟩
        · simp [htext', htext, hfirst.eq_append, openMarker]
        · have hdollar : byteSize ['$'] = 1 := by decide
          rw [byteSize_append, byteSize_append, hdollar, hpos, hpos']
      refine .inr ⟨hboundary, ?_, htext' ▸ hoccurs⟩
      rw [hpos']
      omega
  · have hboundary : IsBoundary s.text s.pos := ⟨before, rest, htext, hpos⟩
    rintro (⟨hoccurs, hopening⟩ | ⟨-, hle, hoccurs⟩)
    · exact ⟨hboundary, by omega, hoccurs⟩
    · exact ⟨hboundary, by omega, htext' ▸ hoccurs⟩

/-- The scan went on within its text, and what it remembers is still right. -/
structure Advances (s s' : Scanner) : Prop where
  text_eq : s'.text = s.text
  pos_lt : s.pos < s'.pos
  pos_le : s'.pos ≤ byteSize s.text
  sound : s'.Sound

theorem Advances.remaining_lt {s s' : Scanner} (h : Advances s s') :
    s'.remaining < s.remaining := by
  obtain ⟨htext, hlt, hle, -⟩ := h
  unfold remaining
  rw [htext]
  omega

/-! ## One open marker -/

/-- What a step does to what is ahead: there was nothing and the scan is at its end, there was
nothing at the next open marker, or a placeholder is taken off. -/
inductive Stepped (s : Scanner) : Step → Prop where
  | finished {s' : Scanner} (nothing_ahead : ∀ span, ¬ s.Ahead span)
      (fixed : s'.step = .ok (.finished s')) : Stepped s (.finished s')
  | literal {s' : Scanner} (advances : Advances s s')
      (ahead_iff : ∀ span, s.Ahead span ↔ s'.Ahead span) : Stepped s (.literal s')
  | found {span : Span} {s' : Scanner} (advances : Advances s s')
      (opening_lt : span.opening < s'.pos)
      (ahead_iff : ∀ t, s.Ahead t ↔ t = span ∨ s'.Ahead t) : Stepped s (.found span s')

/-- At the end of the text every step stays where it is. -/
theorem step_eq_finished_of_pos {s : Scanner} (h : s.pos = byteSize s.text) :
    s.step = .ok (.finished s) := by
  have hafter : after? s.text s.pos = some [] := after?_eq_some_iff.2 ⟨s.text, by simp, h.symm⟩
  have hfind : find? openMarker [] = none := rfl
  simp [step, hafter, hfind]

/-- The next open marker from byte `pos` on stands `offset` bytes further, between `before` and
`tail`. -/
structure NextMarker (text : Text) (pos offset : Nat) (before tail : Text) : Prop where
  text_eq : text = before ++ openMarker ++ tail
  size_eq : byteSize before = pos + offset
  found : ∃ rest, after? text pos = some rest ∧ find? openMarker rest = some offset

theorem exists_nextMarker {text rest : Text} {pos offset : Nat}
    (hafter : after? text pos = some rest) (hopen : find? openMarker rest = some offset) :
    ∃ before tail, NextMarker text pos offset before tail := by
  obtain ⟨before, htext, hpos⟩ := after?_eq_some_iff.1 hafter
  obtain ⟨gap, tail, hfirst, hgap⟩ := find?_eq_some_iff.1 hopen
  refine ⟨before ++ gap, tail, ?_, by rw [byteSize_append, hpos, hgap], rest, hafter, hopen⟩
  rw [htext, hfirst.eq_append]
  simp only [List.append_assoc]

section

variable {s : Scanner} {before tail : Text} {offset : Nat}

/-- Behind an open marker the scan looks for the close marker in what follows, whatever it
remembers. -/
theorem exists_closeFor_past (h : s.Sound) (hmarker : NextMarker s.text s.pos offset before tail) :
    ∃ s', closeFor { s with pos := s.pos + offset + 1 } (s.pos + offset + byteSize openMarker) =
        .ok ((find? closeMarker tail).map (s.pos + offset + byteSize openMarker + ·), s') ∧
      s'.text = s.text ∧ s'.pos = s.pos + offset + 1 ∧ s'.Sound := by
  have hstart : byteSize (before ++ openMarker) = s.pos + offset + byteSize openMarker := by
    rw [byteSize_append, hmarker.size_eq]
  have hmoved : Sound { s with pos := s.pos + offset + 1 } := h.moveTo (by omega)
  have hpast : byteSize (before ++ openMarker) = s.pos + offset + 1 + 1 := by
    rw [hstart, byteSize_openMarker]
  rw [← hstart]
  exact exists_closeFor hmoved hmarker.text_eq hpast

/-- A step at an open marker that is not closed ends the scan. -/
theorem exists_step_of_unclosed (h : s.Sound)
    (hmarker : NextMarker s.text s.pos offset before tail) (hunclosed : '}' ∉ tail) :
    ∃ s', s.step = .ok (.finished s') ∧ s'.text = s.text ∧ s'.pos = byteSize s.text ∧
      s'.Sound := by
  obtain ⟨s₁, hcloseFor, htext₁, hpos₁, hsound₁⟩ := exists_closeFor_past h hmarker
  obtain ⟨htext, hbefore, rest, hafter, hopen⟩ := hmarker
  have hclose : find? closeMarker tail = none := find?_singleton_eq_none_iff.2 hunclosed
  have hle : s₁.pos ≤ byteSize s₁.text := by
    rw [htext₁, hpos₁, htext, byteSize_append, byteSize_append, hbefore, byteSize_openMarker]
    omega
  refine ⟨{ s₁ with pos := byteSize s₁.text }, ?_, htext₁, congrArg byteSize htext₁,
    hsound₁.moveTo hle⟩
  simp only [step, hafter, hopen, hcloseFor, hclose, bind, Except.bind, Option.map_none, pure,
    Except.pure]

/-- A step at an open marker that is closed goes by the content between the two alone. -/
theorem exists_step_of_closed {content : Text} {found : Option Content} (h : s.Sound)
    (hmarker : NextMarker s.text s.pos offset before (content ++ '}' :: tail))
    (hunclosed : '}' ∉ content)
    (hclassify : classify content (find? [separator] content) = .ok found) :
    ∃ s', s.step = .ok (match found with
        | some c => .found ⟨c, s.pos + offset, s.pos + offset + 2 + byteSize content⟩ s'
        | none => .literal s') ∧
      s'.text = s.text ∧ s'.pos = s.pos + offset + 1 ∧ s'.Sound := by
  obtain ⟨s₁, hcloseFor, htext₁, hpos₁, hsound₁⟩ := exists_closeFor_past h hmarker
  obtain ⟨htext, hbefore, rest, hafter, hopen⟩ := hmarker
  have hclose : find? closeMarker (content ++ '}' :: tail) = some (byteSize content) :=
    find?_singleton_eq_some_iff.2 ⟨content, tail, rfl, hunclosed, rfl⟩
  have hstart : byteSize (before ++ openMarker) = s.pos + offset + byteSize openMarker := by
    rw [byteSize_append, hbefore]
  have htext₂ : s₁.text = before ++ openMarker ++ content ++ '}' :: tail := by
    rw [htext₁, htext]
    simp only [List.append_assoc]
  obtain ⟨s₂, hdotFor, htext₃, hpos₂, hsound₂⟩ :=
    exists_dotFor hsound₁ htext₂ hunclosed (by rw [hstart, hpos₁, byteSize_openMarker])
  rw [hstart] at hdotFor
  have hslice : slice s₂.text (s.pos + offset + byteSize openMarker)
      (s.pos + offset + byteSize openMarker + byteSize content) = .ok content :=
    slice_eq_ok_iff.2 ⟨before ++ openMarker, '}' :: tail, htext₃.trans htext₂, hstart, rfl⟩
  refine ⟨s₂, ?_, htext₃.trans htext₁, hpos₂.trans hpos₁, hsound₂⟩
  simp only [step, hafter, hopen, hcloseFor, hclose, hdotFor, hslice, offset_dotPosition,
    hclassify, bind, Except.bind, Option.map_some, pure, Except.pure]
  cases found <;> simp

end

theorem exists_step {s : Scanner} (h : s.Sound) : ∃ o, s.step = .ok o ∧ Stepped s o := by
  cases hafter : after? s.text s.pos with
  | none =>
    have hstep : s.step = .ok (.finished s) := by simp [step, hafter]
    exact ⟨_, hstep, .finished (fun span hahead => after?_eq_none_iff.1 hafter hahead.1) hstep⟩
  | some rest =>
    obtain ⟨before, htext, hpos⟩ := after?_eq_some_iff.1 hafter
    cases hopen : find? openMarker rest with
    | none =>
      have hstep : s.step = .ok (.finished s) := by simp [step, hafter, hopen]
      refine ⟨_, hstep, .finished ?_ hstep⟩
      rintro span ⟨-, hle, hoccurs⟩
      rw [htext] at hoccurs
      obtain ⟨gap, content, tail, hrest, -⟩ := hoccurs.exists_cut (hpos ▸ hle)
      exact find?_eq_none_iff.1 hopen gap (content ++ closeMarker ++ tail) (by simp [hrest])
    | some offset =>
      obtain ⟨gap, tail, hfirst, rfl⟩ := find?_eq_some_iff.1 hopen
      have hmarked : s.text = before ++ gap ++ openMarker ++ tail := by
        rw [htext, hfirst.eq_append]
        simp
      have hbefore : byteSize (before ++ gap) = s.pos + byteSize gap := by
        rw [byteSize_append, hpos]
      have hmarker : NextMarker s.text s.pos (byteSize gap) (before ++ gap) tail :=
        ⟨hmarked, hbefore, rest, hafter, hopen⟩
      have hahead := fun {s'} => @ahead_iff_of_first s s' _ _ _ _ htext hpos hfirst
      by_cases hclosed : '}' ∈ tail
      · obtain ⟨content, rest', rfl, hunclosed⟩ := List.eq_append_cons_of_mem hclosed
        obtain ⟨found, hclassify, hfound⟩ := exists_classify content
        obtain ⟨s', hstep, htext', hpos', hsound'⟩ :=
          exists_step_of_closed h hmarker hunclosed hclassify
        have hadvances : Advances s s' := by
          refine ⟨htext', by omega, ?_, hsound'⟩
          rw [hpos', hmarked, byteSize_append, byteSize_append, hbefore, byteSize_openMarker]
          omega
        have hhere : ∀ t, (Occurs s.text t ∧ t.opening = s.pos + byteSize gap) ↔ ∃ c,
            found = some c ∧
              t = ⟨c, s.pos + byteSize gap, s.pos + byteSize gap + 2 + byteSize content⟩ := by
          intro t
          have hcut : s.text = before ++ gap ++ openMarker ++ content ++ closeMarker ++ rest' := by
            simp [hmarked, closeMarker]
          rw [hcut, ← hbefore]
          exact occurs_at_iff hunclosed hfound
        cases found with
        | none =>
          refine ⟨_, hstep, .literal hadvances fun t => ?_⟩
          simpa [hhere t] using hahead htext' hpos' t
        | some c =>
          refine ⟨_, hstep, .found hadvances (by simp only [hpos']; omega) fun t => ?_⟩
          simpa [hhere t] using hahead htext' hpos' t
      · obtain ⟨s', hstep, htext', hpos', -⟩ :=
          exists_step_of_unclosed h hmarker hclosed
        refine ⟨_, hstep, .finished ?_ (step_eq_finished_of_pos (by rw [hpos', htext']))⟩
        rintro span hspan
        -- A placeholder ahead would be closed after the first open marker.
        have hle : byteSize (before ++ gap) ≤ span.opening := by
          rw [hbefore]
          rcases (@hahead { s with pos := s.pos + byteSize gap + 1 } rfl rfl span).1 hspan with
            ⟨-, hopening⟩ | ⟨-, hle, -⟩
          · omega
          · exact Nat.le_of_lt hle
        have hoccurs := hspan.2.2
        rw [hmarked] at hoccurs
        exact hclosed (hoccurs.close_mem hle)

/-! ## Placeholder by placeholder -/

/-- What `next` answers: nothing when nothing is ahead, and then the same again for good, or the
first placeholder ahead. -/
inductive Nexted (s : Scanner) : Option Span × Scanner → Prop where
  | finished {s' : Scanner} (nothing_ahead : ∀ span, ¬ s.Ahead span)
      (fixed : s'.next = .ok (none, s')) : Nexted s (none, s')
  | found {span : Span} {s' : Scanner} (advances : Advances s s')
      (opening_lt : span.opening < s'.pos)
      (ahead_iff : ∀ t, s.Ahead t ↔ t = span ∨ s'.Ahead t) : Nexted s (some span, s')

theorem Advances.trans {s s' s'' : Scanner} (h : Advances s s') (h' : Advances s' s'') :
    Advances s s'' :=
  ⟨h'.text_eq.trans h.text_eq, Nat.lt_trans h.pos_lt h'.pos_lt, h.text_eq ▸ h'.pos_le, h'.sound⟩

theorem not_ahead_of_remaining {s : Scanner} (h : s.remaining = 0) (span : Span) :
    ¬ s.Ahead span := by
  rintro ⟨hboundary, -, -⟩
  have := hboundary.le_byteSize
  unfold remaining at h
  omega

theorem next_eq_none_of_step {s : Scanner} (h : s.step = .ok (.finished s)) :
    s.next = .ok (none, s) := by
  unfold next
  cases s.remaining with
  | zero => rfl
  | succ fuel => simp [nextWithin, h, bind, Except.bind, pure, Except.pure]

theorem exists_nextWithin {s : Scanner} {fuel : Nat} (h : s.Sound) (hfuel : s.remaining ≤ fuel) :
    ∃ r, nextWithin fuel s = .ok r ∧ Nexted s r := by
  induction fuel generalizing s with
  | zero =>
    have hremaining : s.remaining = 0 := Nat.le_zero.1 hfuel
    refine ⟨_, rfl, .finished (not_ahead_of_remaining hremaining) ?_⟩
    simp [next, hremaining, nextWithin]
  | succ fuel ih =>
    obtain ⟨o, hstep, hstepped⟩ := exists_step h
    simp only [nextWithin, hstep, bind, Except.bind, pure, Except.pure]
    cases hstepped with
    | finished nothing_ahead fixed =>
      exact ⟨_, rfl, .finished nothing_ahead (next_eq_none_of_step fixed)⟩
    | @literal s' advances ahead_iff =>
      have hless := advances.remaining_lt
      obtain ⟨r, hr, hnexted⟩ := ih advances.sound (by omega)
      refine ⟨r, hr, ?_⟩
      cases hnexted with
      | finished nothing_ahead fixed =>
        exact .finished (fun span hspan => nothing_ahead span ((ahead_iff span).1 hspan)) fixed
      | found advances' opening_lt ahead_iff' =>
        exact .found (advances.trans advances') opening_lt
          fun t => (ahead_iff t).trans (ahead_iff' t)
    | found advances opening_lt ahead_iff =>
      exact ⟨_, rfl, .found advances opening_lt ahead_iff⟩

theorem exists_next {s : Scanner} (h : s.Sound) : ∃ r, s.next = .ok r ∧ Nexted s r :=
  exists_nextWithin h (Nat.le_refl _)

theorem exists_runWithin {s : Scanner} {fuel : Nat} (h : s.Sound) (hfuel : s.remaining ≤ fuel) :
    ∃ spans s', runWithin fuel s = .ok (spans, s') ∧
      spans.Pairwise (fun a b => a.opening < b.opening) ∧ (∀ t, t ∈ spans ↔ s.Ahead t) ∧
      s'.next = .ok (none, s') := by
  induction fuel generalizing s with
  | zero =>
    have hremaining : s.remaining = 0 := Nat.le_zero.1 hfuel
    refine ⟨[], s, rfl, .nil, fun t => ?_, by simp [next, hremaining, nextWithin]⟩
    simp [not_ahead_of_remaining hremaining t]
  | succ fuel ih =>
    obtain ⟨r, hnext, hnexted⟩ := exists_next h
    simp only [runWithin, hnext, bind, Except.bind, pure, Except.pure]
    cases hnexted with
    | @finished s' nothing_ahead fixed =>
      exact ⟨[], s', rfl, .nil, fun t => by simp [nothing_ahead t], fixed⟩
    | @found span s' advances opening_lt ahead_iff =>
      have hless := advances.remaining_lt
      obtain ⟨spans, s'', hrun, hsorted, hmem, hend⟩ := ih advances.sound (by omega)
      refine ⟨span :: spans, s'', by simp [hrun], ?_, fun t => ?_, hend⟩
      · refine List.pairwise_cons.2 ⟨fun t ht => ?_, hsorted⟩
        exact Nat.lt_of_lt_of_le opening_lt ((hmem t).1 ht).2.1
      · rw [List.mem_cons, hmem t, ahead_iff t]

/-- A run yields what is ahead, in order, and leaves a scan that yields nothing more. -/
theorem exists_run {s : Scanner} (h : s.Sound) :
    ∃ spans s', s.run = .ok (spans, s') ∧ spans.Pairwise (fun a b => a.opening < b.opening) ∧
      (∀ t, t ∈ spans ↔ s.Ahead t) ∧ s'.next = .ok (none, s') :=
  exists_runWithin h (Nat.le_refl _)

/-! ## Main statement -/

/-- From any offset a scan comes to its end, having yielded exactly the placeholders that stand at
or after the offset, each once and in the order of their open markers, if the offset lies between
characters, and nothing otherwise; after that it yields nothing for good. -/
theorem run_fromOffset_exact (text : Text) (offset : Nat) :
    ∃ spans s, (fromOffset text offset).run = .ok (spans, s) ∧
      spans.Pairwise (fun a b => a.opening < b.opening) ∧
      (∀ span, span ∈ spans ↔ IsBoundary text offset ∧ offset ≤ span.opening ∧ Occurs text span) ∧
      s.next = .ok (none, s) :=
  exists_run (sound_fromOffset text offset)

end TextTemplate.Placeholder.Scanner
