import TextTemplate.Placeholder.Scanner
import TextTemplate.Proofs.Text.Position
set_option autoImplicit false

/-!
# Occurrence: where a placeholder stands in a text

`Occurs` says, without any scan, that a placeholder stands in a text: an open marker, content that
`Spells` what is asked for, and the first close marker after it.  An open marker opens one
placeholder at most (`Occurs.unique`), and the content between it and its close marker alone decides
whether it opens one (`occurs_iff_spells`).
-/

namespace TextTemplate.Placeholder

open Text

@[simp] theorem byteSize_openMarker : byteSize openMarker = 2 := by decide

@[simp] theorem byteSize_closeMarker : byteSize closeMarker = 1 := by decide

@[simp] theorem utf8Size_separator : separator.utf8Size = 1 := by decide

/-! ## Content -/

/-- What a content text asks for.  Without a dot it is a name; otherwise its first dot parts the
name from the path, and neither may be empty. -/
inductive Spells : Text → Content → Prop where
  | direct {name : Text} (nonempty : name ≠ []) (undotted : separator ∉ name) :
      Spells name (.direct (String.ofList name))
  | dotted {root continuation : Text} (root_nonempty : root ≠ []) (undotted : separator ∉ root)
      (continuation_nonempty : continuation ≠ []) :
      Spells (root ++ separator :: continuation)
        (.dotted (String.ofList root) (String.ofList continuation))

/-- Only the first dot of a content text can part a name from a path. -/
theorem spells_append_iff {root continuation : Text} {c : Content} (hundotted : separator ∉ root) :
    Spells (root ++ separator :: continuation) c ↔ root ≠ [] ∧ continuation ≠ [] ∧
      c = .dotted (String.ofList root) (String.ofList continuation) := by
  constructor
  · generalize hcontent : root ++ separator :: continuation = content
    intro h
    cases h with
    | direct _ hname => simp [← hcontent] at hname
    | dotted hroot hundotted' hcontinuation =>
      obtain ⟨rfl, rfl⟩ := append_cons_inj_of_not_mem hcontent hundotted hundotted'
      exact ⟨hroot, hcontinuation, rfl⟩
  · rintro ⟨hroot, hcontinuation, rfl⟩
    exact .dotted hroot hundotted hcontinuation

theorem spells_iff_of_not_mem {name : Text} {c : Content} (hundotted : separator ∉ name) :
    Spells name c ↔ name ≠ [] ∧ c = .direct (String.ofList name) := by
  constructor
  · intro h
    cases h with
    | direct nonempty _ => exact ⟨nonempty, rfl⟩
    | dotted _ _ _ => simp at hundotted
  · rintro ⟨hname, rfl⟩
    exact .direct hname hundotted

/-- The tests on positions that `classify` makes are tests for empty parts. -/
theorem classify_append (root continuation : Text) :
    Scanner.classify (root ++ separator :: continuation) (some (byteSize root)) =
      .ok (if root ≠ [] ∧ continuation ≠ [] then
        some (.dotted (String.ofList root) (String.ofList continuation)) else none) := by
  have hroot : 0 < byteSize root ↔ root ≠ [] := by
    rw [Nat.pos_iff_ne_zero, ne_eq, byteSize_eq_zero_iff]
  have hcontinuation : byteSize root + 1 < byteSize (root ++ separator :: continuation) ↔
      continuation ≠ [] := by
    have hzero := byteSize_eq_zero_iff (t := continuation)
    rw [byteSize_append, byteSize_cons, utf8Size_separator, ne_eq, ← hzero]
    omega
  have hempty : (root ++ separator :: continuation).isEmpty = false := by simp
  have hleft : slice (root ++ separator :: continuation) 0 (byteSize root) = .ok root :=
    slice_eq_ok_iff.2 ⟨[], separator :: continuation, by simp, rfl, by omega⟩
  have hright : sliceFrom (root ++ separator :: continuation) (byteSize root + 1) =
      .ok continuation :=
    sliceFrom_eq_ok_iff.2 ⟨root ++ [separator], by simp, by simp⟩
  simp only [Scanner.classify, hempty, Bool.false_eq_true, if_false, hroot, hcontinuation, hleft,
    hright]
  split <;> rfl

/-- The position of the first dot is all that `classify` needs to know to read a content text. -/
theorem exists_classify (content : Text) :
    ∃ found, Scanner.classify content (find? [separator] content) = .ok found ∧
      ∀ c, found = some c ↔ Spells content c := by
  cases hdot : find? [separator] content with
  | none =>
    have hundotted : separator ∉ content := find?_singleton_eq_none_iff.1 hdot
    by_cases hempty : content = []
    · subst hempty
      exact ⟨none, rfl, fun c => by simp [spells_iff_of_not_mem hundotted]⟩
    · refine ⟨some (.direct (String.ofList content)), by simp [Scanner.classify, hempty],
        fun c => ?_⟩
      simp [spells_iff_of_not_mem hundotted, hempty, eq_comm]
  | some dot =>
    obtain ⟨root, continuation, rfl, hundotted, rfl⟩ := find?_singleton_eq_some_iff.1 hdot
    refine ⟨_, classify_append root continuation, fun c => ?_⟩
    rw [spells_append_iff hundotted]
    split
    · next hboth => simp [hboth, eq_comm]
    · next hboth =>
      simp only [reduceCtorEq, false_iff]
      exact fun h => hboth ⟨h.1, h.2.1⟩

/-- A content text asks for one thing at most. -/
theorem Spells.unique {content : Text} {c c' : Content} (h : Spells content c)
    (h' : Spells content c') : c = c' := by
  obtain ⟨found, -, hfound⟩ := exists_classify content
  exact Option.some.inj (((hfound c).2 h).symm.trans ((hfound c').2 h'))

/-! ## Placeholders in a text -/

/-- `span` stands in `text`: its open marker, content that spells what it asks for, and its close
marker, which is the first one after the open marker. -/
inductive Occurs (text : Text) (span : Span) : Prop where
  | intro (before content rest : Text)
      (text_eq : text = before ++ openMarker ++ content ++ closeMarker ++ rest)
      (opening_eq : byteSize before = span.opening)
      (closing_eq : span.opening + byteSize openMarker + byteSize content = span.closing)
      (unclosed : '}' ∉ content) (spells : Spells content span.content)

namespace Occurs

variable {text : Text} {span : Span}

theorem opening_lt_stop (h : Occurs text span) : span.opening < span.stop := by
  obtain ⟨before, content, rest, -, -, hclosing, -, -⟩ := h
  rw [byteSize_openMarker] at hclosing
  rw [Span.stop, byteSize_closeMarker]
  omega

theorem isBoundary_opening (h : Occurs text span) : IsBoundary text span.opening := by
  obtain ⟨before, content, rest, htext, hopening, -, -, -⟩ := h
  exact ⟨before, openMarker ++ content ++ closeMarker ++ rest, by simp [htext], hopening⟩

theorem isBoundary_stop (h : Occurs text span) : IsBoundary text span.stop := by
  obtain ⟨before, content, rest, htext, hopening, hclosing, -, -⟩ := h
  refine ⟨before ++ openMarker ++ content ++ closeMarker, rest, htext, ?_⟩
  rw [byteSize_append, byteSize_append, byteSize_append, hopening, hclosing, Span.stop]

/-- A placeholder that opens in the rest of a text has all its markers there. -/
theorem exists_cut {before rest : Text} (h : Occurs (before ++ rest) span)
    (hle : byteSize before ≤ span.opening) :
    ∃ gap content tail, rest = gap ++ openMarker ++ content ++ closeMarker ++ tail ∧
      byteSize before + byteSize gap = span.opening := by
  obtain ⟨before', content, tail, htext, hopening, -, -, -⟩ := h
  have hcut : before ++ rest = before' ++ (openMarker ++ content ++ closeMarker ++ tail) := by
    simp [htext]
  obtain ⟨gap, rfl, hrest⟩ := exists_append_of_byteSize_le hcut (hopening ▸ hle)
  exact ⟨gap, content, tail, by simp [hrest], by rw [← hopening, byteSize_append]⟩

/-- A placeholder that opens at an open marker or after it is closed after that open marker. -/
theorem close_mem {before tail : Text} (h : Occurs (before ++ openMarker ++ tail) span)
    (hle : byteSize before ≤ span.opening) : '}' ∈ tail := by
  rw [List.append_assoc] at h
  obtain ⟨gap, content, rest, hrest, -⟩ := h.exists_cut hle
  have hmem : '}' ∈ openMarker ++ tail := by
    rw [hrest]
    simp [closeMarker]
  simpa [openMarker] using hmem

end Occurs

/-- Where an open marker and the close marker after it are known, the content between them decides
which placeholder opens there. -/
theorem occurs_iff_spells {before content rest : Text} {span : Span} (hunclosed : '}' ∉ content)
    (hopening : span.opening = byteSize before) :
    Occurs (before ++ openMarker ++ content ++ closeMarker ++ rest) span ↔
      span.closing = span.opening + 2 + byteSize content ∧ Spells content span.content := by
  constructor
  · rintro ⟨before', content', rest', htext, hopening', hclosing', hunclosed', hspells'⟩
    have hcut : before ++ (openMarker ++ content ++ closeMarker ++ rest) =
        before' ++ (openMarker ++ content' ++ closeMarker ++ rest') := by
      simpa using htext
    obtain ⟨rfl, hmarked⟩ := append_inj_of_byteSize_eq hcut (by rw [hopening', hopening])
    have hclosed : content ++ '}' :: rest = content' ++ '}' :: rest' := by
      simpa [closeMarker] using hmarked
    obtain ⟨rfl, -⟩ := append_cons_inj_of_not_mem hclosed hunclosed hunclosed'
    exact ⟨hclosing'.symm, hspells'⟩
  · rintro ⟨hclosing, hspells⟩
    exact ⟨before, content, rest, rfl, hopening.symm, hclosing.symm, hunclosed, hspells⟩

/-- The one placeholder that opens at such an open marker, if the content spells anything. -/
theorem occurs_at_iff {before content rest : Text} {found : Option Content} {span : Span}
    (hunclosed : '}' ∉ content) (hfound : ∀ c, found = some c ↔ Spells content c) :
    (Occurs (before ++ openMarker ++ content ++ closeMarker ++ rest) span ∧
        span.opening = byteSize before) ↔
      ∃ c, found = some c ∧
        span = ⟨c, byteSize before, byteSize before + 2 + byteSize content⟩ := by
  constructor
  · rintro ⟨hoccurs, hopening⟩
    obtain ⟨hclosing, hspells⟩ := (occurs_iff_spells hunclosed hopening).1 hoccurs
    refine ⟨span.content, (hfound _).2 hspells, ?_⟩
    rw [← hopening, ← hclosing]
  · rintro ⟨c, hc, rfl⟩
    exact ⟨(occurs_iff_spells hunclosed rfl).2 ⟨rfl, (hfound c).1 hc⟩, rfl⟩

/-- At most one placeholder opens at a position. -/
theorem Occurs.unique {text : Text} {span span' : Span} (h : Occurs text span)
    (h' : Occurs text span') (heq : span.opening = span'.opening) : span = span' := by
  obtain ⟨before, content, rest, rfl, hopening, hclosing, hunclosed, hspells⟩ := h
  obtain ⟨hclosing', hspells'⟩ :=
    (occurs_iff_spells hunclosed (heq.symm.trans hopening.symm)).1 h'
  rw [byteSize_openMarker] at hclosing
  cases span
  cases span'
  simp only at heq hclosing hclosing' hspells hspells'
  subst heq
  simp only [Span.mk.injEq, hspells.unique hspells', true_and]
  omega

end TextTemplate.Placeholder
