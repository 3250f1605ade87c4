import Mathlib.Data.Nat.Find
import TextTemplate.Text
set_option autoImplicit false

/-!
# Position: byte positions as cuts of a text

A byte position of a text is the length of the part before it, so everything that cuts or searches
by positions has a reading without them: the text is a concatenation, and the answer is one of its
parts.  The module gives that reading for `after?`, `upTo?`, `slice`, `sliceFrom` and `find?`.
Since no character is empty, a position fixes its cut (`append_inj_of_byteSize_eq`), and searching
the rest of a text is searching the text from a position on (`FirstAt`).
-/

namespace TextTemplate.Text

/-! ## Length -/

@[simp] theorem byteSize_nil : byteSize [] = 0 := rfl

@[simp] theorem byteSize_cons (c : Char) (t : Text) :
    byteSize (c :: t) = c.utf8Size + byteSize t := rfl

@[simp] theorem byteSize_append (t u : Text) : byteSize (t ++ u) = byteSize t + byteSize u := by
  induction t with
  | nil => simp
  | cons c t ih =>
    simp only [List.cons_append, byteSize_cons, ih]
    omega

theorem byteSize_eq_zero_iff {t : Text} : byteSize t = 0 ↔ t = [] := by
  cases t with
  | nil => simp
  | cons c t =>
    have hc := c.utf8Size_pos
    simp only [byteSize_cons, reduceCtorEq, iff_false]
    omega

/-- Of two cuts of one text the later one cuts what follows the earlier one. -/
theorem exists_append_of_byteSize_le {t u t' u' : Text} (h : t ++ u = t' ++ u')
    (hle : byteSize t ≤ byteSize t') : ∃ m, t' = t ++ m ∧ u = m ++ u' := by
  rcases List.append_eq_append_iff.1 h with ⟨m, ht, hu⟩ | ⟨m, ht, hu⟩
  · exact ⟨m, ht, hu⟩
  · have hm : m = [] := by
      rw [← byteSize_eq_zero_iff]
      rw [ht, byteSize_append] at hle
      omega
    subst hm
    exact ⟨[], by simpa using ht.symm, by simpa using hu.symm⟩

/-- A text is cut in one way at one position. -/
theorem append_inj_of_byteSize_eq {t u t' u' : Text} (h : t ++ u = t' ++ u')
    (heq : byteSize t = byteSize t') : t = t' ∧ u = u' := by
  obtain ⟨m, ht, hu⟩ := exists_append_of_byteSize_le h (Nat.le_of_eq heq)
  have hm : m = [] := by
    rw [← byteSize_eq_zero_iff]
    rw [ht, byteSize_append] at heq
    omega
  subst hm
  exact ⟨by simpa using ht.symm, by simpa using hu⟩

/-! ## Pieces -/

/-- Byte `n` of a text is its start, its end, or lies between two of its characters. -/
def IsBoundary (t : Text) (n : Nat) : Prop :=
  ∃ before rest, t = before ++ rest ∧ byteSize before = n

theorem IsBoundary.le_byteSize {t : Text} {n : Nat} (h : IsBoundary t n) : n ≤ byteSize t := by
  obtain ⟨before, rest, rfl, rfl⟩ := h
  rw [byteSize_append]
  omega

theorem isBoundary_zero (t : Text) : IsBoundary t 0 := ⟨[], t, rfl, rfl⟩

theorem after?_eq_some_iff {t rest : Text} {n : Nat} :
    after? t n = some rest ↔ ∃ before, t = before ++ rest ∧ byteSize before = n := by
  fun_induction after? t n with
  | case1 t =>
    constructor
    · rintro ⟨⟩
      exact ⟨[], rfl, rfl⟩
    · rintro ⟨before, ht, hn⟩
      simp [ht, byteSize_eq_zero_iff.1 hn]
  | case2 n =>
    simp only [reduceCtorEq, false_iff]
    rintro ⟨before, h, hn⟩
    simp [(List.append_eq_nil_iff.1 h.symm).1] at hn
  | case3 c t n hc ih =>
    rw [ih]
    constructor
    · rintro ⟨before, rfl, hn⟩
      exact ⟨c :: before, rfl, by rw [byteSize_cons, hn, Nat.add_sub_cancel' hc]⟩
    · rintro ⟨before, h, hn⟩
      cases before with
      | nil => simp at hn
      | cons c' before =>
        obtain ⟨rfl, rfl⟩ := List.cons.inj h
        rw [byteSize_cons] at hn
        exact ⟨before, rfl, Nat.eq_sub_of_add_eq' hn⟩
  | case4 c t n hc =>
    simp only [reduceCtorEq, false_iff]
    rintro ⟨before, h, hn⟩
    cases before with
    | nil => simp at hn
    | cons c' before =>
      obtain ⟨rfl, rfl⟩ := List.cons.inj h
      rw [byteSize_cons] at hn
      omega

theorem after?_append {before rest : Text} {n : Nat} (h : byteSize before = n) :
    after? (before ++ rest) n = some rest :=
  after?_eq_some_iff.2 ⟨before, rfl, h⟩

theorem after?_eq_none_iff {t : Text} {n : Nat} : after? t n = none ↔ ¬ IsBoundary t n := by
  rw [Option.eq_none_iff_forall_not_mem]
  constructor
  · rintro h ⟨before, rest, ht, hn⟩
    exact h rest (after?_eq_some_iff.2 ⟨before, ht, hn⟩)
  · rintro h rest hrest
    obtain ⟨before, ht, hn⟩ := after?_eq_some_iff.1 hrest
    exact h ⟨before, rest, ht, hn⟩

theorem upTo?_eq_some_iff {t piece : Text} {n : Nat} :
    upTo? t n = some piece ↔ ∃ rest, t = piece ++ rest ∧ byteSize piece = n := by
  fun_induction upTo? t n generalizing piece with
  | case1 t =>
    constructor
    · rintro ⟨⟩
      exact ⟨t, rfl, rfl⟩
    · rintro ⟨rest, ht, hn⟩
      simp [byteSize_eq_zero_iff.1 hn]
  | case2 n =>
    simp only [reduceCtorEq, false_iff]
    rintro ⟨rest, h, hn⟩
    simp [(List.append_eq_nil_iff.1 h.symm).1] at hn
  | case3 c t n hc ih =>
    simp only [Option.map_eq_some_iff, ih]
    constructor
    · rintro ⟨piece, ⟨rest, rfl, hn⟩, rfl⟩
      exact ⟨rest, rfl, by rw [byteSize_cons]; omega⟩
    · rintro ⟨rest, h, hn⟩
      cases piece with
      | nil => simp at hn
      | cons c' piece =>
        obtain ⟨rfl, rfl⟩ := List.cons.inj h
        rw [byteSize_cons] at hn
        exact ⟨piece, ⟨rest, rfl, by omega⟩, rfl⟩
  | case4 c t n hc =>
    simp only [reduceCtorEq, false_iff]
    rintro ⟨rest, h, hn⟩
    cases piece with
    | nil => simp at hn
    | cons c' piece =>
      obtain ⟨rfl, rfl⟩ := List.cons.inj h
      rw [byteSize_cons] at hn
      omega

theorem slice_eq_ok_iff {t piece : Text} {lower upper : Nat} :
    slice t lower upper = .ok piece ↔ ∃ before rest, t = before ++ piece ++ rest ∧
      byteSize before = lower ∧ lower + byteSize piece = upper := by
  unfold slice
  split
  · next hle =>
    constructor
    · intro h
      cases hcut : (after? t lower).bind (upTo? · (upper - lower)) with
      | none => simp [hcut] at h
      | some found =>
        obtain rfl : found = piece := by simpa [hcut] using h
        obtain ⟨tail, hafter, hupTo⟩ := Option.bind_eq_some_iff.1 hcut
        obtain ⟨before, rfl, hbefore⟩ := after?_eq_some_iff.1 hafter
        obtain ⟨rest, rfl, hpiece⟩ := upTo?_eq_some_iff.1 hupTo
        exact ⟨before, rest, by simp, hbefore, by omega⟩
    · rintro ⟨before, rest, rfl, hbefore, hpiece⟩
      have hafter : after? (before ++ (piece ++ rest)) lower = some (piece ++ rest) :=
        after?_append hbefore
      have hupTo : upTo? (piece ++ rest) (upper - lower) = some piece :=
        upTo?_eq_some_iff.2 ⟨rest, rfl, by omega⟩
      simp [hafter, hupTo]
  · next hlt =>
    simp only [reduceCtorEq, false_iff]
    rintro ⟨before, rest, -, -, hpiece⟩
    omega

theorem sliceFrom_eq_ok_iff {t piece : Text} {lower : Nat} :
    sliceFrom t lower = .ok piece ↔ ∃ before, t = before ++ piece ∧ byteSize before = lower := by
  rw [← after?_eq_some_iff]
  unfold sliceFrom
  cases after? t lower with
  | none => simp
  | some rest => simp

/-! ## Search -/

/-- `before` ends where `needle` first occurs in `t`, and `rest` follows that occurrence. -/
structure FirstCut (needle t before rest : Text) : Prop where
  eq_append : t = before ++ needle ++ rest
  first : ∀ before' rest', t = before' ++ needle ++ rest' → byteSize before ≤ byteSize before'

/-- A text is cut in one way where another first occurs in it. -/
theorem FirstCut.unique {needle t before rest before' rest' : Text}
    (h : FirstCut needle t before rest) (h' : FirstCut needle t before' rest') :
    before = before' ∧ rest = rest' := by
  have hsize : byteSize before = byteSize before' :=
    Nat.le_antisymm (h.first before' rest' h'.eq_append) (h'.first before rest h.eq_append)
  have heq : before ++ (needle ++ rest) = before' ++ (needle ++ rest') := by
    rw [← List.append_assoc, ← List.append_assoc, ← h.eq_append, ← h'.eq_append]
  obtain ⟨hbefore, htail⟩ := append_inj_of_byteSize_eq heq hsize
  exact ⟨hbefore, List.append_cancel_left htail⟩

theorem find?_eq_none_iff {needle t : Text} :
    find? needle t = none ↔ ∀ before rest, t ≠ before ++ needle ++ rest := by
  induction t with
  | nil => cases needle <;> simp [find?]
  | cons c t ih =>
    simp only [find?]
    split
    · next hpre =>
      obtain ⟨rest, hrest⟩ := List.isPrefixOf_iff_prefix.1 hpre
      simp only [reduceCtorEq, false_iff]
      intro h
      exact h [] rest (by simpa using hrest.symm)
    · next hpre =>
      rw [Option.map_eq_none_iff, ih]
      constructor
      · rintro h before rest heq
        cases before with
        | nil => exact hpre (List.isPrefixOf_iff_prefix.2 ⟨rest, by simpa using heq.symm⟩)
        | cons c' before =>
          obtain ⟨-, ht⟩ := List.cons.inj heq
          exact h before rest ht
      · rintro h before rest rfl
        exact h (c :: before) rest rfl

theorem find?_eq_some_iff {needle t : Text} {n : Nat} :
    find? needle t = some n ↔
      ∃ before rest, FirstCut needle t before rest ∧ byteSize before = n := by
  induction t generalizing n with
  | nil =>
    cases needle with
    | nil =>
      simp only [find?, List.isEmpty_nil, if_true, Option.some.injEq]
      constructor
      · rintro rfl
        exact ⟨[], [], ⟨rfl, by simp⟩, rfl⟩
      · rintro ⟨before, rest, ⟨h, -⟩, hn⟩
        have hbefore : before = [] := by simpa using (List.append_eq_nil_iff.1 h.symm).1
        simpa [hbefore] using hn
    | cons a needle =>
      simp only [find?, List.isEmpty_cons, Bool.false_eq_true, if_false, reduceCtorEq, false_iff]
      rintro ⟨before, rest, ⟨h, -⟩, -⟩
      simp at h
  | cons c t ih =>
    simp only [find?]
    split
    · next hpre =>
      obtain ⟨rest, hrest⟩ := List.isPrefixOf_iff_prefix.1 hpre
      have hcut : FirstCut needle (c :: t) [] rest := ⟨by simpa using hrest.symm, by simp⟩
      simp only [Option.some.injEq]
      constructor
      · rintro rfl
        exact ⟨[], rest, hcut, rfl⟩
      · rintro ⟨before, rest', h, hn⟩
        have := h.first [] rest hcut.eq_append
        simp only [byteSize_nil] at this
        omega
    · next hpre =>
      simp only [Option.map_eq_some_iff, ih]
      constructor
      · rintro ⟨m, ⟨before, rest, h, rfl⟩, rfl⟩
        refine ⟨c :: before, rest, ⟨by simp [h.eq_append], ?_⟩, rfl⟩
        intro before' rest' heq
        cases before' with
        | nil =>
          exact absurd (List.isPrefixOf_iff_prefix.2 ⟨rest', by simpa using heq.symm⟩) hpre
        | cons c' before' =>
          obtain ⟨rfl, ht⟩ := List.cons.inj heq
          have := h.first before' rest' ht
          simp only [byteSize_cons]
          omega
      · rintro ⟨before, rest, h, rfl⟩
        cases before with
        | nil =>
          exact absurd (List.isPrefixOf_iff_prefix.2 ⟨rest, by simpa using h.eq_append.symm⟩) hpre
        | cons c' before =>
          obtain ⟨rfl, ht⟩ := List.cons.inj h.eq_append
          refine ⟨byteSize before, ⟨before, rest, ⟨ht, ?_⟩, rfl⟩, rfl⟩
          intro before' rest' heq
          have := h.first (c :: before') rest' (by simp [heq])
          simp only [byteSize_cons] at this
          omega

/-- A single character is first found behind a part that does not hold it. -/
theorem find?_singleton_eq_some_iff {c : Char} {t : Text} {n : Nat} :
    find? [c] t = some n ↔ ∃ before rest, t = before ++ c :: rest ∧ c ∉ before ∧
      byteSize before = n := by
  rw [find?_eq_some_iff]
  constructor
  · rintro ⟨before, rest, h, rfl⟩
    refine ⟨before, rest, by simpa using h.eq_append, ?_, rfl⟩
    intro hmem
    obtain ⟨left, right, rfl⟩ := List.append_of_mem hmem
    have := h.first left (right ++ c :: rest) (by simp [h.eq_append])
    have := c.utf8Size_pos
    simp only [byteSize_append, byteSize_cons] at *
    omega
  · rintro ⟨before, rest, rfl, hnot, rfl⟩
    refine ⟨before, rest, ⟨by simp, ?_⟩, rfl⟩
    intro before' rest' heq
    rcases Nat.lt_or_ge (byteSize before') (byteSize before) with hlt | hge
    · have hcut : before' ++ c :: rest' = before ++ c :: rest := by simpa using heq.symm
      obtain ⟨m, rfl, hm⟩ := exists_append_of_byteSize_le hcut (Nat.le_of_lt hlt)
      cases m with
      | nil => simp at hlt
      | cons a m =>
        obtain ⟨rfl, -⟩ := List.cons.inj hm
        simp at hnot
    · exact hge

theorem find?_singleton_eq_none_iff {c : Char} {t : Text} : find? [c] t = none ↔ c ∉ t := by
  rw [find?_eq_none_iff]
  constructor
  · intro h hmem
    obtain ⟨before, rest, rfl⟩ := List.append_of_mem hmem
    exact h before rest (by simp)
  · rintro hnot before rest rfl
    simp at hnot

/-- A text is cut in one way where a character first occurs in it. -/
theorem append_cons_inj_of_not_mem {c : Char} {t u t' u' : Text} (h : t ++ c :: u = t' ++ c :: u')
    (hnot : c ∉ t) (hnot' : c ∉ t') : t = t' ∧ u = u' := by
  have hfind : find? [c] (t ++ c :: u) = some (byteSize t) :=
    find?_singleton_eq_some_iff.2 ⟨t, u, rfl, hnot, rfl⟩
  have hfind' : find? [c] (t ++ c :: u) = some (byteSize t') :=
    find?_singleton_eq_some_iff.2 ⟨t', u', h, hnot', rfl⟩
  have hsize : byteSize t = byteSize t' := Option.some.inj (hfind.symm.trans hfind')
  obtain ⟨rfl, htail⟩ := append_inj_of_byteSize_eq h hsize
  exact ⟨rfl, (List.cons.inj htail).2⟩

/-! ## Search from a position -/

/-- `tag` stands in `text` at byte `n`. -/
def StandsAt (text tag : Text) (n : Nat) : Prop :=
  ∃ before rest, text = before ++ tag ++ rest ∧ byteSize before = n

/-- Byte `n` is the first one at or after byte `start` where `tag` stands in `text`. -/
structure FirstAt (text tag : Text) (start n : Nat) : Prop where
  le : start ≤ n
  stands : StandsAt text tag n
  first : ∀ m, start ≤ m → StandsAt text tag m → n ≤ m

theorem FirstAt.unique {text tag : Text} {start n m : Nat} (h : FirstAt text tag start n)
    (h' : FirstAt text tag start m) : n = m :=
  Nat.le_antisymm (h.first m h'.le h'.stands) (h'.first n h.le h.stands)

/-- Two characters that stand at one position are the same. -/
theorem StandsAt.unique {text : Text} {c c' : Char} {n : Nat} (h : StandsAt text [c] n)
    (h' : StandsAt text [c'] n) : c = c' := by
  obtain ⟨before, rest, rfl, hn⟩ := h
  obtain ⟨before', rest', htext, hn'⟩ := h'
  have hcut : before ++ c :: rest = before' ++ c' :: rest' := by simpa using htext
  obtain ⟨-, htail⟩ := append_inj_of_byteSize_eq hcut (hn.trans hn'.symm)
  exact (List.cons.inj htail).1

/-- What stands behind a part of a text stands in the rest of it. -/
theorem StandsAt.exists_cut {before rest tag : Text} {n : Nat}
    (h : StandsAt (before ++ rest) tag n) (hle : byteSize before ≤ n) :
    ∃ gap tail, rest = gap ++ tag ++ tail ∧ byteSize before + byteSize gap = n := by
  obtain ⟨before', tail, htext, hn⟩ := h
  rw [List.append_assoc] at htext
  obtain ⟨gap, rfl, hrest⟩ := exists_append_of_byteSize_le htext (by omega)
  exact ⟨gap, tail, by rw [hrest, List.append_assoc], by rw [← hn, byteSize_append]⟩

/-- The first occurrence in the rest of a text is the first one from there on. -/
theorem FirstCut.firstAt (before : Text) {tag rest gap tail : Text}
    (h : FirstCut tag rest gap tail) :
    FirstAt (before ++ rest) tag (byteSize before) (byteSize before + byteSize gap) := by
  refine ⟨Nat.le_add_right _ _, ⟨before ++ gap, tail, ?_, byteSize_append before gap⟩, ?_⟩
  · rw [h.eq_append]
    simp only [List.append_assoc]
  · intro m hle hstands
    obtain ⟨gap', tail', hrest, hm⟩ := hstands.exists_cut hle
    have hfirst := h.first gap' tail' hrest
    omega

/-- The first occurrence from a position on is the first one in the rest of the text. -/
theorem FirstAt.exists_firstCut {tag before rest : Text} {n : Nat}
    (h : FirstAt (before ++ rest) tag (byteSize before) n) :
    ∃ gap tail, FirstCut tag rest gap tail ∧ byteSize before + byteSize gap = n := by
  obtain ⟨gap, tail, hrest, hn⟩ := h.stands.exists_cut h.le
  refine ⟨gap, tail, ⟨hrest, ?_⟩, hn⟩
  intro gap' tail' hrest'
  have hstands : StandsAt (before ++ rest) tag (byteSize (before ++ gap')) :=
    ⟨before ++ gap', tail', by rw [hrest']; simp only [List.append_assoc], rfl⟩
  have hfirst := h.first _ (by rw [byteSize_append]; omega) hstands
  rw [byteSize_append] at hfirst
  omega

/-- What stands somewhere stands somewhere first. -/
theorem StandsAt.exists_firstAt {text tag : Text} {start n : Nat} (h : StandsAt text tag n)
    (hle : start ≤ n) : ∃ m ≤ n, FirstAt text tag start m := by
  classical
  have hexists : ∃ m, start ≤ m ∧ StandsAt text tag m := ⟨n, hle, h⟩
  obtain ⟨hstart, hstands⟩ := Nat.find_spec hexists
  refine ⟨Nat.find hexists, Nat.find_min' hexists ⟨hle, h⟩, hstart, hstands, ?_⟩
  intro m hm hstands'
  exact Nat.find_min' hexists ⟨hm, hstands'⟩

end TextTemplate.Text
