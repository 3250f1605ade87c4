import TextTemplate.Proofs.Placeholder.Scan
set_option autoImplicit false

/-!
# Remembered: what a scan remembers does not show

The positions that a scan remembers only save it searches.  Two scans that stand at one position of
a text `Agree` if what either remembers is right, however much each of them remembers.  Scans that
agree take every step in the same way and agree again (`Agree.exists_step`), so they give the same
answers for good (`Agree.nexts`, `Agree.run`).  One of the two may be a scan that starts afresh and
remembers nothing.
-/

namespace TextTemplate.Placeholder.Scanner

open Text

/-! ## Scans that agree -/

/-- Two scans of `text` at one position, each with right positions to remember. -/
structure Agree (text : Text) (s t : Scanner) : Prop where
  text_left : s.text = text
  text_right : t.text = text
  pos_eq : t.pos = s.pos
  sound_left : s.Sound
  sound_right : t.Sound

/-- A scan agrees with the one that starts afresh where it stands. -/
theorem Agree.fresh {text : Text} {s : Scanner} (htext : s.text = text) (h : s.Sound) :
    Agree text s (fromOffset text s.pos) :=
  ⟨htext, rfl, rfl, h, sound_fromOffset text s.pos⟩

theorem Agree.remaining_eq {text : Text} {s t : Scanner} (h : Agree text s t) :
    t.remaining = s.remaining := by
  simp only [remaining, h.text_left, h.text_right, h.pos_eq]

/-- Two steps that go the same way, and from there scans that agree. -/
inductive StepsAlike (text : Text) : Step → Step → Prop where
  | finished {s t : Scanner} (agree : Agree text s t) :
      StepsAlike text (.finished s) (.finished t)
  | literal {s t : Scanner} (agree : Agree text s t) : StepsAlike text (.literal s) (.literal t)
  | found {s t : Scanner} (span : Span) (agree : Agree text s t) :
      StepsAlike text (.found span s) (.found span t)

/-- Scans that agree go past the next open marker in the same way. -/
theorem Agree.exists_step {text : Text} {s t : Scanner} (h : Agree text s t) :
    ∃ o o', s.step = .ok o ∧ t.step = .ok o' ∧ StepsAlike text o o' := by
  have hsame : after? t.text t.pos = after? s.text s.pos := by
    rw [h.text_left, h.text_right, h.pos_eq]
  cases hafter : after? s.text s.pos with
  | none =>
    have hafter' := hsame.trans hafter
    exact ⟨_, _, by simp only [step, hafter], by simp only [step, hafter'], .finished h⟩
  | some rest =>
    have hafter' := hsame.trans hafter
    cases hopen : find? openMarker rest with
    | none =>
      exact ⟨_, _, by simp only [step, hafter, hopen], by simp only [step, hafter', hopen],
        .finished h⟩
    | some offset =>
      obtain ⟨before, tail, hmarker⟩ := exists_nextMarker hafter hopen
      have hmarker' : NextMarker t.text t.pos offset before tail := by
        rw [h.text_right, h.pos_eq, ← h.text_left]
        exact hmarker
      -- Whether there is a close marker, and the content up to it, are read off the same tail.
      by_cases hclosed : '}' ∈ tail
      · obtain ⟨content, rest', rfl, hunclosed⟩ := List.eq_append_cons_of_mem hclosed
        obtain ⟨found, hclassify, -⟩ := exists_classify content
        obtain ⟨s', hstep, htext_s, hpos_s, hsound_s⟩ :=
          exists_step_of_closed h.sound_left hmarker hunclosed hclassify
        obtain ⟨t', hstep', htext_t, hpos_t, hsound_t⟩ :=
          exists_step_of_closed h.sound_right hmarker' hunclosed hclassify
        have hagree : Agree text s' t' :=
          ⟨htext_s.trans h.text_left, htext_t.trans h.text_right, by rw [hpos_s, hpos_t, h.pos_eq],
            hsound_s, hsound_t⟩
        rw [h.pos_eq] at hstep'
        refine ⟨_, _, hstep, hstep', ?_⟩
        cases found with
        | none => exact .literal hagree
        | some c => exact .found _ hagree
      · obtain ⟨s', hstep, htext_s, hpos_s, hsound_s⟩ :=
          exists_step_of_unclosed h.sound_left hmarker hclosed
        obtain ⟨t', hstep', htext_t, hpos_t, hsound_t⟩ :=
          exists_step_of_unclosed h.sound_right hmarker' hclosed
        have hagree : Agree text s' t' :=
          ⟨htext_s.trans h.text_left, htext_t.trans h.text_right,
            by rw [hpos_s, hpos_t, h.text_left, h.text_right], hsound_s, hsound_t⟩
        exact ⟨_, _, hstep, hstep', .finished hagree⟩

/-! ## The same answers -/

/-- Two answers that are the same, and from there scans that agree. -/
def SameAnswer {α : Type} (text : Text) (r r' : Except BadRange (α × Scanner)) : Prop :=
  ∃ a s t, r = .ok (a, s) ∧ r' = .ok (a, t) ∧ Agree text s t

section

variable {α β : Type} {text : Text}

theorem Agree.sameAnswer {s t : Scanner} (h : Agree text s t) (a : α) :
    SameAnswer text (.ok (a, s)) (.ok (a, t)) :=
  ⟨a, s, t, rfl, rfl, h⟩

/-- What goes on from the same answer in the same way answers the same. -/
theorem SameAnswer.bind {r r' : Except BadRange (α × Scanner)}
    {f : α × Scanner → Except BadRange (β × Scanner)} (h : SameAnswer text r r')
    (hf : ∀ a s t, Agree text s t → SameAnswer text (f (a, s)) (f (a, t))) :
    SameAnswer text (r >>= f) (r' >>= f) := by
  obtain ⟨a, s, t, rfl, rfl, hagree⟩ := h
  exact hf a s t hagree

end

variable {text : Text} {s t : Scanner}

theorem Agree.nextWithin (h : Agree text s t) (fuel : Nat) :
    SameAnswer text (nextWithin fuel s) (nextWithin fuel t) := by
  induction fuel generalizing s t with
  | zero => exact h.sameAnswer none
  | succ fuel ih =>
    obtain ⟨o, o', hstep, hstep', halike⟩ := h.exists_step
    simp only [Scanner.nextWithin, hstep, hstep', bind, Except.bind]
    cases halike with
    | finished hagree => exact hagree.sameAnswer none
    | literal hagree => exact ih hagree
    | found span hagree => exact hagree.sameAnswer (some span)

theorem Agree.next (h : Agree text s t) : SameAnswer text s.next t.next := by
  rw [Scanner.next, Scanner.next, h.remaining_eq]
  exact h.nextWithin s.remaining

theorem Agree.runWithin (h : Agree text s t) (fuel : Nat) :
    SameAnswer text (runWithin fuel s) (runWithin fuel t) := by
  induction fuel generalizing s t with
  | zero => exact h.sameAnswer []
  | succ fuel ih =>
    refine h.next.bind fun span? s' t' hagree => ?_
    cases span? with
    | none => exact hagree.sameAnswer []
    | some span => exact (ih hagree).bind fun spans _ _ hagree' => hagree'.sameAnswer (span :: spans)

theorem Agree.run (h : Agree text s t) : SameAnswer text s.run t.run := by
  rw [Scanner.run, Scanner.run, h.remaining_eq]
  exact h.runWithin s.remaining

/-- The answers of `n` calls of `next`, those past the end included, and the scan after them. -/
def nexts : (n : Nat) → Scanner → Except BadRange (List (Option Span) × Scanner)
  | 0, s => .ok ([], s)
  | n + 1, s => do
    let (span?, s) ← s.next
    let (answers, s) ← nexts n s
    return (span? :: answers, s)

theorem Agree.nexts (h : Agree text s t) (n : Nat) :
    SameAnswer text (nexts n s) (nexts n t) := by
  induction n generalizing s t with
  | zero => exact h.sameAnswer []
  | succ n ih =>
    refine h.next.bind fun span? s' t' hagree => ?_
    exact (ih hagree).bind fun answers _ _ hagree' => hagree'.sameAnswer (span? :: answers)

/-! ## Main statement -/

/-- Byte `n` ends the search for a dot in content that starts at byte `start`: there is the first
dot, if no close marker stands before it, and otherwise the first close marker. -/
inductive EndsDotSearch (text : Text) (start n : Nat) : Prop where
  | dot (first : FirstAt text [separator] start n)
      (open_until : ∀ m, start ≤ m → StandsAt text closeMarker m → n < m)
  | close (first : FirstAt text closeMarker start n)
      (undotted_until : ∀ m, start ≤ m → StandsAt text [separator] m → n < m)

/-- What a scan remembers is what a search would find from any position behind that of the scan, as
long as it is not passed.  All content that the scan has yet to come to starts at such positions. -/
structure RemembersFirst (s : Scanner) : Prop where
  close : ∀ n, s.nextClose = some n → ∀ start, s.pos < start → start ≤ n →
    FirstAt s.text closeMarker start n
  dot : ∀ n, s.nextDot = some n → ∀ start, s.pos < start → start ≤ n →
    EndsDotSearch s.text start n

theorem FirstOf.endsDotSearch {start start' n : Nat} (h : FirstOf text ['.', '}'] start n)
    (hle : start ≤ start') (hn : start' ≤ n) : EndsDotSearch text start' n := by
  have hdot : ∀ m, start' ≤ m → StandsAt text [separator] m → n ≤ m := fun m hm =>
    h.le_of_standsAt (by simp [separator]) (Nat.le_trans hle hm)
  have hclose : ∀ m, start' ≤ m → StandsAt text closeMarker m → n ≤ m := fun m hm =>
    h.le_of_standsAt (by simp) (Nat.le_trans hle hm)
  obtain ⟨c, hc, hstands⟩ := h.exists_standsAt
  have hcases : c = '.' ∨ c = '}' := by simpa using hc
  rcases hcases with rfl | rfl
  · refine .dot ⟨hn, hstands, hdot⟩ fun m hm hm' => ?_
    refine Nat.lt_of_le_of_ne (hclose m hm hm') ?_
    rintro rfl
    exact absurd (hstands.unique hm') (by decide)
  · refine .close ⟨hn, hstands, hclose⟩ fun m hm hm' => ?_
    refine Nat.lt_of_le_of_ne (hdot m hm hm') ?_
    rintro rfl
    exact absurd (hstands.unique hm') (by decide)

theorem Sound.remembersFirst (h : s.Sound) : s.RemembersFirst := by
  refine ⟨fun n hn start hlt hle => (h.close n hn).firstAt hlt hle, ?_⟩
  intro n hn start hlt hle
  exact (h.dot n hn).endsDotSearch hlt hle

/-- However many calls a scan has answered, what it remembers shows in no later answer: it goes on
as a scan does that starts afresh at its position, over all that is left (`run`) and call by call.
Each position it remembers is the first of its kind behind the position of the scan. -/
theorem nexts_fromOffset_transparent (text : Text) (offset n : Nat) :
    ∃ answers s, nexts n (fromOffset text offset) = .ok (answers, s) ∧ s.text = text ∧
      (∃ spans s₁ s₂, s.run = .ok (spans, s₁) ∧ (fromOffset text s.pos).run = .ok (spans, s₂) ∧
        s₁.next = .ok (none, s₁) ∧ s₂.next = .ok (none, s₂)) ∧
      (∀ m, ∃ later s₁ s₂, nexts m s = .ok (later, s₁) ∧
        nexts m (fromOffset text s.pos) = .ok (later, s₂) ∧ s₁.pos = s₂.pos) ∧
      s.RemembersFirst := by
  obtain ⟨answers, s, _, hnexts, -, hagree⟩ :=
    (Agree.fresh (s := fromOffset text offset) rfl (sound_fromOffset text offset)).nexts n
  have hfresh := Agree.fresh hagree.text_left hagree.sound_left
  refine ⟨answers, s, hnexts, hagree.text_left, ?_, fun m => ?_, hagree.sound_left.remembersFirst⟩
  · obtain ⟨spans, s₁, s₂, hrun, hrun', -⟩ := hfresh.run
    obtain ⟨_, s₁', hended, -, -, hend⟩ := exists_run hfresh.sound_left
    obtain ⟨_, s₂', hended', -, -, hend'⟩ := exists_run hfresh.sound_right
    obtain ⟨rfl, rfl⟩ := Prod.mk.inj (Except.ok.inj (hrun.symm.trans hended))
    obtain ⟨-, rfl⟩ := Prod.mk.inj (Except.ok.inj (hrun'.symm.trans hended'))
    exact ⟨spans, s₁, s₂, hrun, hrun', hend, hend'⟩
  · obtain ⟨later, s₁, s₂, hlater, hlater', hagree'⟩ := hfresh.nexts m
    exact ⟨later, s₁, s₂, hlater, hlater', hagree'.pos_eq.symm⟩

/-- In `${a.b${c}` the second content starts past the remembered dot, which is of no use for it, and
before the remembered close marker. -/
example :
    nexts 1 (fromOffset "$\x7ba.b$\x7bc\x7d".toList 0) =
      .ok ([some ⟨.dotted "a" "b$\x7bc", 0, 8⟩],
        ⟨"$\x7ba.b$\x7bc\x7d".toList, 1, some 8, some 3⟩) := by rfl

end TextTemplate.Placeholder.Scanner
