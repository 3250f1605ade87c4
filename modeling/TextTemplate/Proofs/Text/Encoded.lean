import TextTemplate.Proofs.Text.Splice
set_option autoImplicit false

/-!
# Encoded: a text as the bytes of its UTF-8 form

Positions count bytes, so a range of them may end inside a character.  `IsRange` says, by the bytes
alone, which ranges bound a piece of a text, and those are the ones that `slice` answers
(`exists_slice_iff`).  A search may look at the bytes alone as well: the UTF-8 form of one text
never occurs in that of another text but between its characters (`BytesAt.standsAt`).  At last, a
text with edits carried out is, byte by byte, what lies between the edits and their replacements
(`Spliced.assembled`).
-/

namespace TextTemplate.Text

/-! ## Bytes -/

theorem size_utf8Encode (t : Text) : t.utf8Encode.size = byteSize t := by
  induction t with
  | nil => rfl
  | cons c t ih =>
    rw [List.utf8Encode_cons, ByteArray.size_append, ih, List.utf8Encode_singleton,
      List.size_toByteArray, String.length_utf8EncodeChar, byteSize_cons]

theorem utf8ByteSize_ofList (t : Text) : (String.ofList t).utf8ByteSize = byteSize t := by
  rw [← String.size_toByteArray, String.toByteArray_ofList, size_utf8Encode]

/-- The middle one of three texts takes up the bytes from the end of the first one on. -/
theorem extract_utf8Encode (before piece rest : Text) :
    (before ++ piece ++ rest).utf8Encode.extract (byteSize before)
      (byteSize before + byteSize piece) = piece.utf8Encode := by
  have hskip := ByteArray.extract_append_size_add (a := before.utf8Encode)
    (b := piece.utf8Encode ++ rest.utf8Encode) (i := 0) (j := piece.utf8Encode.size)
  rw [ByteArray.extract_append_eq_left rfl, Nat.add_zero] at hskip
  rw [List.append_assoc, List.utf8Encode_append, List.utf8Encode_append, ← size_utf8Encode before,
    ← size_utf8Encode piece, hskip]

/-! ## Ranges -/

/-- The positions between the characters are those that UTF-8 allows to cut at. -/
theorem isValid_iff_isBoundary {t : Text} {n : Nat} :
    (⟨n⟩ : String.Pos.Raw).IsValid (String.ofList t) ↔ IsBoundary t n := by
  rw [String.Pos.Raw.isValid_iff_exists_append]
  constructor
  · rintro ⟨before, rest, ht, hn⟩
    refine ⟨before.toList, rest.toList, ?_, ?_⟩
    · rw [← String.toList_append, ← ht, String.toList_ofList]
    · rw [← utf8ByteSize_ofList, String.ofList_toList]
      exact (congrArg String.Pos.Raw.byteIdx hn).symm
  · rintro ⟨before, rest, rfl, rfl⟩
    refine ⟨String.ofList before, String.ofList rest, String.ofList_append, ?_⟩
    apply String.Pos.Raw.ext
    exact (utf8ByteSize_ofList before).symm

/-- Bytes `lower` and `upper` of a text are in order, within it, and not inside a character. -/
structure IsRange (t : Text) (lower upper : Nat) : Prop where
  le : lower ≤ upper
  le_byteSize : upper ≤ byteSize t
  lower_isValid : (⟨lower⟩ : String.Pos.Raw).IsValid (String.ofList t)
  upper_isValid : (⟨upper⟩ : String.Pos.Raw).IsValid (String.ofList t)

section

variable {t : Text} {lower upper : Nat}

theorem IsBoundary.isRange (hlower : IsBoundary t lower) (hupper : IsBoundary t upper)
    (hle : lower ≤ upper) : IsRange t lower upper :=
  ⟨hle, hupper.le_byteSize, isValid_iff_isBoundary.2 hlower, isValid_iff_isBoundary.2 hupper⟩

/-- A piece is answered exactly where there is one. -/
theorem exists_slice_iff : (∃ piece, slice t lower upper = .ok piece) ↔ IsRange t lower upper := by
  constructor
  · rintro ⟨piece, hpiece⟩
    obtain ⟨before, rest, rfl, rfl, rfl⟩ := slice_eq_ok_iff.1 hpiece
    have hlower : IsBoundary (before ++ piece ++ rest) (byteSize before) :=
      ⟨before, piece ++ rest, List.append_assoc _ _ _, rfl⟩
    have hupper : IsBoundary (before ++ piece ++ rest) (byteSize before + byteSize piece) :=
      ⟨before ++ piece, rest, rfl, byteSize_append _ _⟩
    exact hlower.isRange hupper (Nat.le_add_right _ _)
  · rintro ⟨hle, -, hlower, hupper⟩
    exact exists_slice (isValid_iff_isBoundary.1 hlower) (isValid_iff_isBoundary.1 hupper) hle

/-- A cut that fails tells where it was tried. -/
theorem slice_eq_error_iff {bad : BadRange} :
    slice t lower upper = .error bad ↔ ¬ IsRange t lower upper ∧ bad = ⟨lower, upper⟩ := by
  rw [← exists_slice_iff]
  unfold slice
  split
  · cases (after? t lower).bind (upTo? · (upper - lower)) with
    | none => simp [eq_comm]
    | some piece => simp
  · simp [eq_comm]

/-- The first byte of `é` is no piece of it. -/
example : slice ['é'] 0 1 = .error ⟨0, 1⟩ := rfl

/-- To cut from a position to the end is to cut up to the last byte. -/
theorem sliceFrom_eq_slice : sliceFrom t lower = slice t lower (byteSize t) := by
  cases hafter : after? t lower with
  | none => simp [sliceFrom, slice, hafter]
  | some rest =>
    obtain ⟨before, rfl, rfl⟩ := after?_eq_some_iff.1 hafter
    have hslice : slice (before ++ rest) (byteSize before) (byteSize (before ++ rest)) = .ok rest :=
      slice_eq_ok_iff.2 ⟨before, [], (List.append_nil _).symm, rfl, (byteSize_append _ _).symm⟩
    rw [hslice, sliceFrom_eq_ok_iff]
    exact ⟨before, rfl, rfl⟩

/-- A piece holds the bytes between its bounds. -/
theorem utf8Encode_of_slice {piece : Text} (h : slice t lower upper = .ok piece) :
    piece.utf8Encode = t.utf8Encode.extract lower upper := by
  obtain ⟨before, rest, rfl, rfl, rfl⟩ := slice_eq_ok_iff.1 h
  exact (extract_utf8Encode before piece rest).symm

end

/-! ## Search -/

/-- The bytes of `tag` are those of `text` from byte `n` on. -/
structure BytesAt (text tag : Text) (n : Nat) : Prop where
  le_byteSize : n + byteSize tag ≤ byteSize text
  extract_eq : text.utf8Encode.extract n (n + byteSize tag) = tag.utf8Encode

section

variable {text tag : Text} {n : Nat}

theorem StandsAt.bytesAt (h : StandsAt text tag n) : BytesAt text tag n := by
  obtain ⟨before, rest, rfl, rfl⟩ := h
  refine ⟨?_, extract_utf8Encode before tag rest⟩
  simp only [byteSize_append]
  omega

/-- Where a text stands, it can be cut out. -/
theorem StandsAt.isRange (h : StandsAt text tag n) : IsRange text n (n + byteSize tag) := by
  obtain ⟨before, rest, htext, hn⟩ := h
  exact exists_slice_iff.1 ⟨tag, slice_eq_ok_iff.2 ⟨before, rest, htext, hn, rfl⟩⟩

/-- Bytes that spell a text lie between the characters of the text they are found in. -/
theorem BytesAt.isRange (h : BytesAt text tag n) (hne : tag ≠ []) :
    IsRange text n (n + byteSize tag) := by
  obtain ⟨hle, hextract⟩ := h
  have hvalid : (text.utf8Encode.extract n (n + byteSize tag)).IsValidUTF8 :=
    hextract ▸ ByteArray.isValidUTF8_utf8Encode
  have hpos : byteSize tag ≠ 0 := fun hzero => hne (byteSize_eq_zero_iff.1 hzero)
  have hend : (⟨n + byteSize tag⟩ : String.Pos.Raw) ≤ (String.ofList text).rawEndPos := by
    rw [String.Pos.Raw.le_iff, String.byteIdx_rawEndPos, utf8ByteSize_ofList]
    exact hle
  rw [← String.toByteArray_ofList] at hvalid
  have hle' : (⟨n⟩ : String.Pos.Raw) ≤ ⟨n + byteSize tag⟩ := Nat.le_add_right n (byteSize tag)
  rcases (String.Pos.Raw.isValidUTF8_extract_iff ⟨n⟩ ⟨n + byteSize tag⟩ hle' hend).1 hvalid with
    heq | ⟨hlower, hupper⟩
  · exact absurd (congrArg String.Pos.Raw.byteIdx heq) (by simp only; omega)
  · exact ⟨Nat.le_add_right _ _, hle, hlower, hupper⟩

/-- Where the bytes of a text are found, the text stands. -/
theorem BytesAt.standsAt (h : BytesAt text tag n) (hne : tag ≠ []) : StandsAt text tag n := by
  obtain ⟨piece, hpiece⟩ := exists_slice_iff.2 (h.isRange hne)
  have hbytes : piece.utf8Encode = tag.utf8Encode :=
    (utf8Encode_of_slice hpiece).trans h.extract_eq
  obtain rfl : piece = tag := by
    rw [← String.ofList_inj, ← String.toByteArray_inj]
    simpa only [String.toByteArray_ofList] using hbytes
  obtain ⟨before, rest, htext, hbefore, -⟩ := slice_eq_ok_iff.1 hpiece
  exact ⟨before, rest, htext, hbefore⟩

/-- Every text holds the empty one at its start. -/
theorem find?_nil (text : Text) : find? [] text = some 0 := by
  cases text <;> rfl

/-- To search for characters is to search for bytes. -/
theorem find?_eq_some_iff_bytesAt :
    find? tag text = some n ↔ BytesAt text tag n ∧ ∀ m, BytesAt text tag m → n ≤ m := by
  by_cases hne : tag = []
  · subst hne
    have hstart : BytesAt text [] 0 := StandsAt.bytesAt ⟨[], text, rfl, rfl⟩
    rw [find?_nil, Option.some.injEq]
    constructor
    · rintro rfl
      exact ⟨hstart, fun m _ => Nat.zero_le m⟩
    · rintro ⟨-, hfirst⟩
      exact (Nat.le_zero.1 (hfirst 0 hstart)).symm
  · rw [find?_eq_some_iff]
    constructor
    · rintro ⟨before, rest, ⟨htext, hfirst⟩, rfl⟩
      refine ⟨StandsAt.bytesAt ⟨before, rest, htext, rfl⟩, fun m hm => ?_⟩
      obtain ⟨before', rest', htext', rfl⟩ := hm.standsAt hne
      exact hfirst before' rest' htext'
    · rintro ⟨hn, hfirst⟩
      obtain ⟨before, rest, htext, rfl⟩ := hn.standsAt hne
      refine ⟨before, rest, ⟨htext, fun before' rest' htext' => ?_⟩, rfl⟩
      exact hfirst _ (StandsAt.bytesAt ⟨before', rest', htext', rfl⟩)

end

/-! ## Edits -/

/-- The pieces of a text of `size` bytes that are kept when `edits` are carried out on what follows
byte `copied`: up to each edit, and from the last one to the end. -/
def gaps (size : Nat) : (copied : Nat) → (edits : List Edit) → List (Nat × Nat)
  | copied, [] => [(copied, size)]
  | copied, e :: edits => (copied, e.start) :: gaps size e.stop edits

/-- The bytes that are left of `bytes` from byte `copied` on, with `edits` carried out. -/
def spliceBytes (bytes : ByteArray) : (copied : Nat) → (edits : List Edit) → ByteArray
  | copied, [] => bytes.extract copied bytes.size
  | copied, e :: edits =>
    bytes.extract copied e.start ++ (String.ofList e.replacement).toByteArray ++
      spliceBytes bytes e.stop edits

/-- `out` is `text` with `edits` carried out, byte by byte: what is kept of `text` are pieces of it,
and the bytes of those and of the replacements, one after the other, are the UTF-8 form of `out`. -/
structure Assembled (text : Text) (edits : List Edit) (out : Text) : Prop where
  isRange : ∀ gap ∈ gaps (byteSize text) 0 edits, IsRange text gap.1 gap.2
  utf8Encode_eq : out.utf8Encode = spliceBytes text.utf8Encode 0 edits
  isValidUTF8 : (spliceBytes text.utf8Encode 0 edits).IsValidUTF8

namespace Spliced

variable {text out : Text} {copied : Nat} {edits : List Edit}

theorem isRange_gaps (h : Spliced text copied edits out) :
    ∀ gap ∈ gaps (byteSize text) copied edits, IsRange text gap.1 gap.2 := by
  induction h with
  | done text_eq copied_eq =>
    have hslice := sliceFrom_eq_ok_iff.2 ⟨_, text_eq, copied_eq⟩
    rw [sliceFrom_eq_slice] at hslice
    simpa [gaps] using exists_slice_iff.1 ⟨_, hslice⟩
  | edit text_eq copied_eq start_eq tail ih =>
    have hslice := slice_eq_ok_iff.2 ⟨_, _, text_eq, copied_eq, start_eq⟩
    exact List.forall_mem_cons.2 ⟨exists_slice_iff.1 ⟨_, hslice⟩, ih⟩

theorem utf8Encode_eq (h : Spliced text copied edits out) :
    out.utf8Encode = spliceBytes text.utf8Encode copied edits := by
  induction h with
  | done text_eq copied_eq =>
    have hslice := sliceFrom_eq_ok_iff.2 ⟨_, text_eq, copied_eq⟩
    rw [sliceFrom_eq_slice] at hslice
    rw [spliceBytes, size_utf8Encode, utf8Encode_of_slice hslice]
  | edit text_eq copied_eq start_eq tail ih =>
    have hslice := slice_eq_ok_iff.2 ⟨_, _, text_eq, copied_eq, start_eq⟩
    rw [spliceBytes, String.toByteArray_ofList, List.utf8Encode_append, List.utf8Encode_append, ih,
      utf8Encode_of_slice hslice]

theorem assembled (h : Spliced text 0 edits out) : Assembled text edits out :=
  ⟨h.isRange_gaps, h.utf8Encode_eq, h.utf8Encode_eq ▸ ByteArray.isValidUTF8_utf8Encode⟩

end Spliced

end TextTemplate.Text
