import TextTemplate.Document.Toml.Quoted
set_option autoImplicit false

/-!
# Quoted: what basic texts denote

A character of a basic text can be written in several ways: as it is, by the letter of an escape, or
by its code in four or eight hexadecimal digits.  Whichever of them are chosen, the reader takes the
text up to its closing mark for the characters that are meant (`text_of_spelling`), and the writer
chooses one of them for every character (`spelling_flatMap`).
-/

namespace TextTemplate.Document.Toml

/-! ## Spellings -/

/-- The letters of escapes, and the characters that they stand for. -/
def escapes : List (Char × Char) :=
  [('b', '\x08'), ('t', '\t'), ('n', '\n'), ('f', '\x0c'), ('r', '\r'), ('"', '"'), ('\\', '\\')]

/-- A letter that says how many digits the code after it has. -/
def codeLengths : List (Char × Nat) := [('u', 4), ('U', 8)]

/-- Between the marks of a basic text the first characters stand for the second ones. -/
inductive Spelling : List Char → List Char → Prop
  | nil : Spelling [] []
  | plain {c : Char} {cs s : List Char} (quote : c ≠ '"') (backslash : c ≠ '\\')
      (plain : isPlain c = true) (rest : Spelling cs s) : Spelling (c :: cs) (c :: s)
  | escape {letter c : Char} {cs s : List Char} (escape : (letter, c) ∈ escapes)
      (rest : Spelling cs s) : Spelling ('\\' :: letter :: cs) (c :: s)
  | code {letter c : Char} {digits cs s : List Char} (length : (letter, digits.length) ∈ codeLengths)
      (hex : digits.all isHexDigit = true)
      (denotes : character? (digitsValue 16 digits) = some c) (rest : Spelling cs s) :
      Spelling ('\\' :: letter :: (digits ++ cs)) (c :: s)

theorem simpleEscape?_of_mem {letter c : Char} (h : (letter, c) ∈ escapes) :
    simpleEscape? letter = some c := by
  simp only [escapes, List.mem_cons, Prod.mk.injEq, List.not_mem_nil, or_false] at h
  rcases h with ⟨rfl, rfl⟩ | ⟨rfl, rfl⟩ | ⟨rfl, rfl⟩ | ⟨rfl, rfl⟩ | ⟨rfl, rfl⟩ | ⟨rfl, rfl⟩ |
    ⟨rfl, rfl⟩ <;> rfl

theorem ne_of_mem_escapes {letter c : Char} (h : (letter, c) ∈ escapes) :
    letter ≠ 'u' ∧ letter ≠ 'U' := by
  constructor <;>
  · rintro rfl
    exact absurd (simpleEscape?_of_mem h) (by simp [simpleEscape?])

/-! ## Reading -/

/-- The digits of a code, read one by one. -/
theorem basicBody_code {digits : List Char} (hex : digits.all isHexDigit = true) {left : Nat}
    (hlength : digits.length = left + 1) (value : Nat) (cs : List Char) :
    basicBody (.code left value) (digits ++ cs) =
      match character? (digits.foldl (fun n c => 16 * n + (hexDigit? c).getD 0) value) with
      | some d => prepend d (basicBody .plain cs)
      | none => .error .scalar := by
  induction digits generalizing left value with
  | nil => cases hlength
  | cons d digits ih =>
    obtain ⟨hd, hdigits⟩ := Bool.and_eq_true_iff.1 (List.all_cons ▸ hex)
    obtain ⟨v, hv⟩ := Option.isSome_iff_exists.1 hd
    rw [List.cons_append, List.foldl_cons, basicBody, hv]
    cases left with
    | zero =>
      obtain rfl : digits = [] := List.length_eq_zero_iff.1 (Nat.succ.inj hlength)
      rfl
    | succ left => exact ih hdigits (Nat.succ.inj hlength) _

/-- The reader takes a text for what it denotes, up to the closing mark. -/
theorem basicBody_of_spelling {cs s : List Char} (h : Spelling cs s) (rest : List Char) :
    basicBody .plain (cs ++ '"' :: rest) = .ok (s, rest) := by
  induction h with
  | nil => rfl
  | plain quote backslash plain tail ih =>
    rw [List.cons_append, basicBody, if_neg quote, if_neg backslash, if_pos plain, ih]
    rfl
  | escape escape tail ih =>
    obtain ⟨hu, hU⟩ := ne_of_mem_escapes escape
    rw [List.cons_append, List.cons_append, basicBody, if_neg (by decide), if_pos rfl, basicBody,
      if_neg hu, if_neg hU, simpleEscape?_of_mem escape, ih]
    rfl
  | @code letter c digits cs s length hex denotes tail ih =>
    have hread : ∀ left, digits.length = left + 1 →
        basicBody (.code left 0) (digits ++ (cs ++ '"' :: rest)) = .ok (c :: s, rest) := by
      intro left hlength
      have hvalue : character? (digits.foldl (fun n c => 16 * n + (hexDigit? c).getD 0) 0) =
          some c := denotes
      rw [basicBody_code hex hlength, hvalue, ih]
      rfl
    rw [List.cons_append, List.cons_append, List.append_assoc, basicBody, if_neg (by decide),
      if_pos rfl, basicBody]
    simp only [codeLengths, List.mem_cons, Prod.mk.injEq, List.not_mem_nil, or_false] at length
    rcases length with ⟨rfl, hlength⟩ | ⟨rfl, hlength⟩
    · rw [if_pos rfl, hread 3 hlength]
    · rw [if_neg (by decide), if_pos rfl, hread 7 hlength]

/-- A text does not begin with a mark. -/
theorem Spelling.head?_ne {cs s : List Char} (h : Spelling cs s) : cs.head? ≠ some '"' := by
  cases h with
  | nil => exact fun h => by cases h
  | plain quote => exact fun h => quote (Option.some.inj h)
  | escape => exact fun h => absurd (Option.some.inj h) (by decide)
  | code => exact fun h => absurd (Option.some.inj h) (by decide)

/-- Marks around a text are not taken for those of a text on several lines. -/
theorem marks_lt_of_spelling {cs s rest : List Char} (h : Spelling cs s)
    (hrest : rest.head? ≠ some '"') : marks '"' ('"' :: cs ++ '"' :: rest) < 3 := by
  have hnone : ∀ cs : List Char, cs.head? ≠ some '"' → cs.takeWhile (· == '"') = [] := by
    intro cs hcs
    cases cs with
    | nil => rfl
    | cons c cs => exact List.takeWhile_cons_of_neg fun heq => hcs (congrArg some (beq_iff_eq.1 heq))
  have hfirst : ∀ cs, marks '"' ('"' :: cs) = marks '"' cs + 1 := fun cs => rfl
  cases cs with
  | nil =>
    have hmarks : marks '"' rest = 0 := congrArg List.length (hnone rest hrest)
    rw [List.cons_append, List.nil_append, hfirst, hfirst, hmarks]
    decide
  | cons c cs =>
    have hmarks : marks '"' (c :: cs ++ '"' :: rest) = 0 :=
      congrArg List.length (hnone (c :: cs ++ '"' :: rest) h.head?_ne)
    rw [List.cons_append, hfirst, hmarks]
    decide

/-- A basic text is read as what it denotes. -/
theorem text_of_spelling {cs s rest : List Char} (h : Spelling cs s)
    (hrest : rest.head? ≠ some '"') :
    text '"' ('"' :: cs ++ '"' :: rest) = .ok (String.ofList s, rest) := by
  -- With three marks it would be a text on several lines.
  have hmarks : ¬ 3 ≤ marks '"' ('"' :: cs ++ '"' :: rest) :=
    Nat.not_le_of_lt (marks_lt_of_spelling h hrest)
  have hbasic : basic ('"' :: (cs ++ '"' :: rest)) = .ok (String.ofList s, rest) := by
    change (basicBody .plain (cs ++ '"' :: rest)).bind _ = _
    rw [basicBody_of_spelling h]
    rfl
  change (if 3 ≤ marks '"' ('"' :: cs ++ '"' :: rest) then _ else _ : Reader String) _ = _
  rw [if_neg hmarks, if_pos rfl]
  exact hbasic

/-! ## Writing -/

/-- The code of a control is four digits. -/
theorem codeDigits_of_lt {n : Nat} (h : n < 128) :
    (codeDigits n).length = 4 ∧ (codeDigits n).all isHexDigit = true ∧
      character? (digitsValue 16 (codeDigits n)) = some (Char.ofNat n) := by
  revert n
  decide

/-- A character is written by the letter of its escape if it has one, as it is if it can be, and
otherwise by its code. -/
theorem basicChar_cases (c : Char) :
    (∃ letter, (letter, c) ∈ escapes ∧ basicChar c = ['\\', letter]) ∨
    (c ≠ '"' ∧ c ≠ '\\' ∧ isPlain c = true ∧ basicChar c = [c]) ∨
    (c.toNat < 128 ∧ basicChar c = '\\' :: 'u' :: codeDigits c.toNat) := by
  by_cases hescape : ∃ letter, (letter, c) ∈ escapes
  · obtain ⟨letter, hmem⟩ := hescape
    refine .inl ⟨letter, hmem, ?_⟩
    simp only [escapes, List.mem_cons, Prod.mk.injEq, List.not_mem_nil, or_false] at hmem
    rcases hmem with ⟨rfl, rfl⟩ | ⟨rfl, rfl⟩ | ⟨rfl, rfl⟩ | ⟨rfl, rfl⟩ | ⟨rfl, rfl⟩ | ⟨rfl, rfl⟩ |
      ⟨rfl, rfl⟩ <;> rfl
  · have hne : ∀ letter d, (letter, d) ∈ escapes → c ≠ d :=
      fun letter d hmem heq => hescape ⟨letter, heq ▸ hmem⟩
    have hquote : c ≠ '"' := hne '"' _ (by decide)
    have hbackslash : c ≠ '\\' := hne '\\' _ (by decide)
    refine .inr ?_
    rw [basicChar, if_neg (hne 'b' _ (by decide)), if_neg (hne 't' _ (by decide)),
      if_neg (hne 'n' _ (by decide)), if_neg (hne 'f' _ (by decide)),
      if_neg (hne 'r' _ (by decide)), if_neg hquote, if_neg hbackslash]
    cases hplain : isPlain c with
    | true => exact .inl ⟨hquote, hbackslash, rfl, if_pos rfl⟩
    | false =>
      refine .inr ⟨?_, rfl⟩
      simp only [isPlain, Bool.or_eq_false_iff, Bool.and_eq_false_iff, decide_eq_false_iff_not,
        bne_eq_false_iff_eq] at hplain
      omega

/-- What is written for a character can precede any spelling of the rest of a text. -/
theorem Spelling.basicChar {cs s : List Char} (h : Spelling cs s) (c : Char) :
    Spelling (Toml.basicChar c ++ cs) (c :: s) := by
  rcases basicChar_cases c with ⟨letter, hmem, heq⟩ | ⟨hquote, hbackslash, hplain, heq⟩ |
    ⟨hlt, heq⟩
  · exact heq ▸ h.escape hmem
  · exact heq ▸ h.plain hquote hbackslash hplain
  · obtain ⟨hlength, hhex, hvalue⟩ := codeDigits_of_lt hlt
    rw [Char.ofNat_toNat] at hvalue
    rw [heq]
    exact h.code (by rw [hlength]; decide) hhex hvalue

/-- What is written is a spelling of what it is written for. -/
theorem spelling_flatMap (s : List Char) : Spelling (s.flatMap basicChar) s := by
  induction s with
  | nil => exact .nil
  | cons c s ih => exact ih.basicChar c

end TextTemplate.Document.Toml
