import Mathlib.Data.Nat.Digits.Defs
import TextTemplate.Fixture.Object
import TextTemplate.Text.Digits
import TextTemplate.Value.Member
set_option autoImplicit false

/-!
# Index: the positions that names denote

The number that a name denotes is built up digit by digit in 64 bits.  A number never gets smaller
by further digits, so the digits are refused just when the whole number does not fit, however many
zeros it begins with (`listIndex?_eq`).  Since no list has more items than there are such numbers, a
digit name stands for the item at its number, read as a number of any size
(`field_list_eq_some_iff`).
-/

namespace TextTemplate

theorem le_foldl_decimal (n : Nat) (digits : List Char) :
    n ≤ digits.foldl (fun n c => 10 * n + (c.toNat - '0'.toNat)) n := by
  induction digits generalizing n with
  | nil => exact Nat.le_refl n
  | cons c digits ih =>
    have hnext := ih (10 * n + (c.toNat - '0'.toNat))
    rw [List.foldl_cons]
    omega

/-- Decimal digits denote the number with these digits, the last of them the units. -/
theorem decimalValue_eq_ofDigits (digits : List Char) :
    decimalValue digits =
      Nat.ofDigits 10 (digits.reverse.map fun c => c.toNat - '0'.toNat) := by
  rw [Nat.ofDigits_eq_foldr, List.foldr_map, List.foldr_reverse, decimalValue]
  congr 1
  funext n c
  exact Nat.add_comm _ _

theorem decimalValue_zeros (zeros : Nat) (digits : List Char) :
    decimalValue (List.replicate zeros '0' ++ digits) = decimalValue digits := by
  induction zeros with
  | zero => rfl
  | succ zeros ih =>
    rw [List.replicate_succ, List.cons_append]
    exact ih

namespace Value

variable {ω : Type}

/-- Is a name made up of ASCII digits, at least one? -/
def isIndex (name : String) : Bool := !name.toList.isEmpty && name.toList.all Char.isDigit

/-- Digits that follow a number make up one that fits, or are refused. -/
theorem foldlM_pushDigit? (n : Nat) (digits : List Char) (hn : fitsUInt64 n = true) :
    digits.foldlM pushDigit? n =
      let value := digits.foldl (fun n c => 10 * n + (c.toNat - '0'.toNat)) n
      if fitsUInt64 value then some value else none := by
  induction digits generalizing n with
  | nil => simp [hn]
  | cons c digits ih =>
    rw [List.foldlM_cons, List.foldl_cons, pushDigit?]
    by_cases hfits : fitsUInt64 (10 * n + (c.toNat - '0'.toNat)) = true
    · simp only [hfits, if_true]
      exact ih _ hfits
    · have hle := le_foldl_decimal (10 * n + (c.toNat - '0'.toNat)) digits
      have hbeyond : ¬ fitsUInt64 (digits.foldl (fun n c => 10 * n + (c.toNat - '0'.toNat))
          (10 * n + (c.toNat - '0'.toNat))) = true := by
        unfold fitsUInt64 at hfits ⊢
        simp only [decide_eq_true_eq] at hfits ⊢
        omega
      simp only [hfits, hbeyond]
      rfl

/-- A name of digits denotes its number, if that fits 64 bits; other names denote no position. -/
theorem listIndex?_eq (name : String) :
    listIndex? name = if isIndex name && fitsUInt64 (decimalValue name.toList) then
      some (decimalValue name.toList) else none := by
  have hnot : (name.toList.isEmpty || !name.toList.all Char.isDigit) = !isIndex name := by
    rw [isIndex, Bool.not_and, Bool.not_not]
  dsimp only [listIndex?]
  rw [hnot]
  cases isIndex name with
  | false => rfl
  | true => exact foldlM_pushDigit? 0 name.toList (by decide)

theorem field_list_eq (host : Host ω) (items : List (Value ω)) (name : String) :
    (list items).field host name =
      pure (if isIndex name && fitsUInt64 (decimalValue name.toList) then
        items[decimalValue name.toList]? else none) := by
  rw [field, listIndex?_eq]
  split <;> rfl

theorem isDigit_iff (c : Char) : c.isDigit = true ↔ '0' ≤ c ∧ c ≤ '9' := by
  rw [Char.isDigit, Bool.and_eq_true, decide_eq_true_eq, decide_eq_true_eq]
  exact Iff.rfl

theorem isIndex_iff {name : String} :
    isIndex name = true ↔ name ≠ "" ∧ ∀ c ∈ name.toList, '0' ≤ c ∧ c ≤ '9' := by
  simp only [isIndex, Bool.and_eq_true, Bool.not_eq_true', List.isEmpty_eq_false_iff,
    List.all_eq_true, isDigit_iff, ne_eq, String.toList_eq_nil_iff]

/-- Zeros before a digit name make no difference. -/
theorem field_list_zeros (host : Host ω) (items : List (Value ω)) {name : String}
    (h : isIndex name = true) (zeros : Nat) :
    (list items).field host (String.ofList (List.replicate zeros '0') ++ name) =
      (list items).field host name := by
  have htext : (String.ofList (List.replicate zeros '0') ++ name).toList =
      List.replicate zeros '0' ++ name.toList := by
    rw [String.toList_append, String.toList_ofList]
  have hindex : isIndex (String.ofList (List.replicate zeros '0') ++ name) = true := by
    obtain ⟨hne, hdigits⟩ := isIndex_iff.1 h
    rw [isIndex_iff]
    constructor
    · intro hempty
      exact hne (String.append_eq_empty_iff.1 hempty).2
    · intro c hc
      rw [htext, List.mem_append] at hc
      rcases hc with hc | hc
      · rw [List.eq_of_mem_replicate hc]
        decide
      · exact hdigits c hc
  rw [field_list_eq, field_list_eq, hindex, h, htext, decimalValue_zeros]

/-! ## Main statement -/

/-- The number that a name denotes if its characters are decimal digits. -/
def indexValue (name : String) : Nat :=
  Nat.ofDigits 10 (name.toList.reverse.map fun c => c.toNat - '0'.toNat)

theorem indexValue_eq (name : String) : indexValue name = decimalValue name.toList :=
  (decimalValue_eq_ofDigits name.toList).symm

/-- The item that a name denotes; that the number is read in 64 bits shows only in the bound. -/
theorem field_list_eq_some {host : Host ω} {items : List (Value ω)} {name : String} {v : Value ω} :
    (list items).field host name = pure (some v) ↔
      ((name ≠ "" ∧ ∀ c ∈ name.toList, '0' ≤ c ∧ c ≤ '9') ∧
          indexValue name < 18446744073709551616) ∧
        ∃ h : indexValue name < items.length, items[indexValue name] = v := by
  rw [field_list_eq, ← indexValue_eq, Logged.pure_inj, Option.ite_none_right_eq_some,
    Bool.and_eq_true, isIndex_iff, fitsUInt64, decide_eq_true_eq, List.getElem?_eq_some_iff]

/-- A name denotes an item of a list exactly if it consists of ASCII digits, at least one and any
number of them, and the number that they denote, however large, is the position of the item.  There
are no lists with more items than 64 bits can count.  Of a list of any size an empty name, one with
any other character, and one for a number that is not below the size of the list or does not fit 64
bits denote nothing; and zeros before digits make no difference. -/
theorem field_list_eq_some_iff (host : Host ω) :
    (∀ (items : List (Value ω)) (name : String) (v : Value ω),
      items.length ≤ 18446744073709551616 →
      ((list items).field host name = pure (some v) ↔
        name ≠ "" ∧ (∀ c ∈ name.toList, '0' ≤ c ∧ c ≤ '9') ∧
          ∃ h : indexValue name < items.length, items[indexValue name] = v)) ∧
    (∀ (items : List (Value ω)) (name : String),
      name = "" ∨ (∃ c ∈ name.toList, ¬ ('0' ≤ c ∧ c ≤ '9')) ∨
        items.length ≤ indexValue name ∨ 18446744073709551616 ≤ indexValue name →
      (list items).field host name = pure none) ∧
    ∀ (items : List (Value ω)) (name : String) (zeros : Nat),
      name ≠ "" → (∀ c ∈ name.toList, '0' ≤ c ∧ c ≤ '9') →
      (list items).field host (String.ofList (List.replicate zeros '0') ++ name) =
        (list items).field host name := by
  refine ⟨?_, ?_, ?_⟩
  · intro items name v hcount
    rw [field_list_eq_some]
    constructor
    · rintro ⟨⟨⟨hne, hdigits⟩, _⟩, hitem⟩
      exact ⟨hne, hdigits, hitem⟩
    · rintro ⟨hne, hdigits, hlt, hitem⟩
      exact ⟨⟨⟨hne, hdigits⟩, Nat.lt_of_lt_of_le hlt hcount⟩, hlt, hitem⟩
  · intro items name h
    rw [field_list_eq, ← indexValue_eq, Logged.pure_inj]
    split
    case isFalse => rfl
    case isTrue hfits =>
      rw [Bool.and_eq_true, isIndex_iff, fitsUInt64, decide_eq_true_eq] at hfits
      obtain ⟨⟨hne, hdigits⟩, hlt⟩ := hfits
      rcases h with h | ⟨c, hc, h⟩ | h | h
      · exact absurd h hne
      · exact absurd (hdigits c hc) h
      · exact List.getElem?_eq_none h
      · omega
  · intro items name zeros hne hdigits
    exact field_list_zeros host items (isIndex_iff.2 ⟨hne, hdigits⟩) zeros

/-- Of two items the second is denoted by a name of 24 digits, and nothing by a number that does not
fit 64 bits, by a sign, or by a digit of another script. -/
theorem field_list_eq_some_iff_leading_zeros :
    (list [.int 4, .int 5]).field Fixture.host "000000000000000000000001" =
        pure (some (.int 5)) ∧
      (list [.int 4, .int 5]).field Fixture.host "18446744073709551617" = pure none ∧
      (list [.int 4, .int 5]).field Fixture.host "+1" = pure none ∧
      (list [.int 4, .int 5]).field Fixture.host "\u0661" = pure none ∧
      (list [.int 4, .int 5]).field Fixture.host (String.ofList (List.replicate 30 '0') ++ "1") =
        (list [.int 4, .int 5]).field Fixture.host "1" := by
  obtain ⟨hsome, hnone, hzeros⟩ := field_list_eq_some_iff Fixture.host
  obtain ⟨hne, hdigits⟩ := isIndex_iff.1 (rfl : isIndex "1" = true)
  obtain ⟨hne', hdigits'⟩ := isIndex_iff.1 (rfl : isIndex "000000000000000000000001" = true)
  refine ⟨?_, ?_, ?_, ?_, hzeros _ "1" 30 hne hdigits⟩
  · exact (hsome _ _ _ (by decide)).2 ⟨hne', hdigits', by decide, rfl⟩
  · exact hnone _ _ (.inr (.inr (.inr (by decide))))
  · exact hnone _ _ (.inr (.inl ⟨'+', by decide, by decide⟩))
  · exact hnone _ _ (.inr (.inl ⟨'\u0661', by decide, by decide⟩))

end Value

end TextTemplate
