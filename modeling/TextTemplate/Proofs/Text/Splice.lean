import TextTemplate.Proofs.Text.Position
set_option autoImplicit false

/-!
# Splice: a text with some of its pieces replaced

`Spliced` says what a text with edits carried out is, as a concatenation: what lies before an edit,
its replacement, and so on to the end.  `splice` answers exactly that text, and it answers one
whenever the edits lie in order between characters (`exists_spliced`).  Edits of one text, and then
those of a text that follows it, are edits of both together (`Spliced.append`).
-/

namespace TextTemplate.Text

/-- Where an edit begins and ends. -/
def Edit.bounds (e : Edit) : Nat × Nat := (e.start, e.stop)

/-- `out` is what follows byte `copied` of `t`, with `edits` carried out: every gap before an edit
as it stands, then the replacement, and after the last edit all that is left. -/
inductive Spliced (t : Text) : Nat → List Edit → Text → Prop where
  | done {copied : Nat} {before rest : Text} (text_eq : t = before ++ rest)
      (copied_eq : byteSize before = copied) : Spliced t copied [] rest
  | edit {copied : Nat} {before gap rest out : Text} {e : Edit} {edits : List Edit}
      (text_eq : t = before ++ gap ++ rest) (copied_eq : byteSize before = copied)
      (start_eq : copied + byteSize gap = e.start) (tail : Spliced t e.stop edits out) :
      Spliced t copied (e :: edits) (gap ++ e.replacement ++ out)

theorem splice_eq_ok_iff {t out : Text} {copied : Nat} {edits : List Edit} :
    splice t copied edits = .ok out ↔ Spliced t copied edits out := by
  induction edits generalizing copied out with
  | nil =>
    simp only [splice, sliceFrom_eq_ok_iff]
    constructor
    · rintro ⟨before, ht, hcopied⟩
      exact .done ht hcopied
    · rintro (⟨ht, hcopied⟩)
      exact ⟨_, ht, hcopied⟩
  | cons e edits ih =>
    constructor
    · intro h
      cases hgap : slice t copied e.start with
      | error bad => simp [splice, hgap, bind, Except.bind] at h
      | ok gap =>
        cases htail : splice t e.stop edits with
        | error bad => simp [splice, hgap, htail, bind, Except.bind] at h
        | ok tail =>
          obtain rfl : gap ++ e.replacement ++ tail = out := by
            simpa [splice, hgap, htail, bind, Except.bind, pure, Except.pure] using h
          obtain ⟨before, rest, ht, hcopied, hstart⟩ := slice_eq_ok_iff.1 hgap
          exact .edit ht hcopied hstart (ih.1 htail)
    · rintro (_ | ⟨ht, hcopied, hstart, htail⟩)
      have hgap := slice_eq_ok_iff.2 ⟨_, _, ht, hcopied, hstart⟩
      simp [splice, hgap, ih.2 htail, bind, Except.bind, pure, Except.pure]

/-- Two boundaries in order bound a piece. -/
theorem exists_slice {t : Text} {lower upper : Nat} (hlower : IsBoundary t lower)
    (hupper : IsBoundary t upper) (hle : lower ≤ upper) :
    ∃ piece, slice t lower upper = .ok piece := by
  obtain ⟨before, rest, ht, rfl⟩ := hlower
  obtain ⟨before', rest', ht', rfl⟩ := hupper
  obtain ⟨piece, rfl, rfl⟩ := exists_append_of_byteSize_le (ht.symm.trans ht') hle
  exact ⟨piece, slice_eq_ok_iff.2 ⟨before, rest', by simpa using ht', rfl, by simp⟩⟩

/-- The edits lie one after the other, none before byte `copied`. -/
def InOrder : (copied : Nat) → (edits : List Edit) → Prop
  | _, [] => True
  | copied, e :: edits => copied ≤ e.start ∧ InOrder e.stop edits

/-- Edits in order, between characters, can be carried out. -/
theorem exists_spliced {t : Text} {copied : Nat} {edits : List Edit} (hcopied : IsBoundary t copied)
    (hbounds : ∀ e ∈ edits, IsBoundary t e.start ∧ IsBoundary t e.stop)
    (horder : InOrder copied edits) : ∃ out, Spliced t copied edits out := by
  induction edits generalizing copied with
  | nil =>
    obtain ⟨before, rest, ht, hbefore⟩ := hcopied
    exact ⟨rest, .done ht hbefore⟩
  | cons e edits ih =>
    obtain ⟨hstart, hstop⟩ := hbounds e List.mem_cons_self
    obtain ⟨gap, hgap⟩ := exists_slice hcopied hstart horder.1
    obtain ⟨before, rest, ht, hbefore, hsize⟩ := slice_eq_ok_iff.1 hgap
    obtain ⟨out, hout⟩ :=
      ih hstop (fun e' he' => hbounds e' (List.mem_cons_of_mem e he')) horder.2
    exact ⟨gap ++ e.replacement ++ out, .edit ht hbefore hsize hout⟩

/-! ## Concatenation -/

/-- The same edit `n` bytes further on. -/
def Edit.shift (n : Nat) (e : Edit) : Edit := ⟨e.start + n, e.stop + n, e.replacement⟩

/-- Edits are carried out in the same way behind another text. -/
theorem Spliced.shift {t out : Text} {copied : Nat} {edits : List Edit} (front : Text)
    (h : Spliced t copied edits out) :
    Spliced (front ++ t) (copied + byteSize front)
      (edits.map (Edit.shift (byteSize front))) out := by
  induction h with
  | @done copied before rest text_eq copied_eq =>
    have htext : front ++ t = (front ++ before) ++ rest := by rw [text_eq, List.append_assoc]
    exact .done htext (by rw [byteSize_append, copied_eq, Nat.add_comm])
  | @edit copied before gap rest out e edits text_eq copied_eq start_eq tail ih =>
    have htext : front ++ t = (front ++ before) ++ gap ++ rest := by
      rw [text_eq]
      simp only [List.append_assoc]
    have hstart : copied + byteSize front + byteSize gap = (e.shift (byteSize front)).start := by
      simp only [Edit.shift, ← start_eq]
      omega
    exact .edit htext (by rw [byteSize_append, copied_eq, Nat.add_comm]) hstart ih

/-- What lies before the first edit may be copied as well. -/
theorem Spliced.extend {before rest tail out : Text} {edits : List Edit}
    (h : Spliced (before ++ rest ++ tail) (byteSize (before ++ rest)) edits out) :
    Spliced (before ++ rest ++ tail) (byteSize before) edits (rest ++ out) := by
  cases h with
  | done text_eq copied_eq =>
    obtain ⟨-, rfl⟩ := append_inj_of_byteSize_eq text_eq copied_eq.symm
    exact .done (List.append_assoc _ _ _) rfl
  | @edit _ before' gap rest' out e edits text_eq copied_eq start_eq others =>
    rw [List.append_assoc before'] at text_eq
    obtain ⟨rfl, htail⟩ := append_inj_of_byteSize_eq text_eq copied_eq.symm
    have htext : before ++ rest ++ tail = before ++ (rest ++ gap) ++ rest' := by
      rw [htail]
      simp only [List.append_assoc]
    have hstart : byteSize before + byteSize (rest ++ gap) = e.start := by
      rw [← start_eq, byteSize_append, byteSize_append, Nat.add_assoc]
    rw [← List.append_assoc, ← List.append_assoc]
    exact .edit htext rfl hstart others

/-- Edits of a text, and then edits of what follows it. -/
theorem Spliced.append {t u out out' : Text} {copied : Nat} {edits edits' : List Edit}
    (h : Spliced t copied edits out) (h' : Spliced (t ++ u) (byteSize t) edits' out') :
    Spliced (t ++ u) copied (edits ++ edits') (out ++ out') := by
  induction h with
  | done text_eq copied_eq =>
    subst text_eq copied_eq
    exact h'.extend
  | @edit copied before gap rest out e edits text_eq copied_eq start_eq tail ih =>
    have htext : t ++ u = before ++ gap ++ (rest ++ u) := by
      rw [text_eq]
      simp only [List.append_assoc]
    rw [List.append_assoc]
    exact .edit htext copied_eq start_eq ih

end TextTemplate.Text
