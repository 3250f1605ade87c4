import Mathlib.Data.List.Nodup
import Mathlib.Data.List.Perm.Subperm
import Mathlib.Tactic.Choose
import TextTemplate.Embedded.Returned
set_option autoImplicit false

/-!
# Table: keys, borders and views

A table made of entries with different keys keeps those that hold something (`entries_ofEntries`).
A border is an index that is present, or zero, with the next index absent.  A view is lawful if it
meets every entry of a table once and takes one of its borders for its length; the standard view is.
-/

namespace TextTemplate.Embedded

namespace Table

variable {α : Type} {t : Table} {es : List (Key × Datum)} {k l : Key} {d : Datum} {n : Nat}

/-- The keys of entries. -/
def keys (es : List (Key × α)) : List Key := es.map (·.1)

/-- No key is used twice, and there are no more entries than can be counted. -/
structure Sound (t : Table) : Prop where
  nodup : (keys t.entries).Nodup
  size : t.entries.length < 9223372036854775808

/-- An index is among keys. -/
def HasIndex (ks : List Key) (i : Int) : Prop := ∃ k : Int64, k.toInt = i ∧ Key.int k ∈ ks

/-- A possible length of a table with the given keys. -/
def IsBorder (ks : List Key) (n : Nat) : Prop :=
  (n = 0 ∨ HasIndex ks n) ∧ ¬ HasIndex ks (n + 1)

theorem HasIndex.of_mem_iff {ks ls : List Key} {i : Int} (h : HasIndex ks i)
    (hmem : ∀ k, k ∈ ls ↔ k ∈ ks) : HasIndex ls i := by
  obtain ⟨j, hj, hjmem⟩ := h
  exact ⟨j, hj, (hmem _).2 hjmem⟩

theorem IsBorder.of_mem_iff {ks ls : List Key} (h : IsBorder ks n)
    (hmem : ∀ k, k ∈ ls ↔ k ∈ ks) : IsBorder ls n :=
  ⟨h.1.imp_right (·.of_mem_iff hmem), fun hnext => h.2 (hnext.of_mem_iff fun k => (hmem k).symm)⟩

/-! ## What is stored -/

theorem erase_of_notMem (h : k ∉ keys es) : erase k es = es := by
  induction es with
  | nil => rfl
  | cons e es ih =>
    obtain ⟨l, d⟩ := e
    obtain ⟨hne, hmem⟩ := not_or.1 (mt List.mem_cons.2 h)
    rw [erase, if_neg (Ne.symm hne), ih hmem]

theorem insert_of_notMem (h : k ∉ keys es) : insert k d es = es ++ [(k, d)] := by
  induction es with
  | nil => rfl
  | cons e es ih =>
    obtain ⟨l, d'⟩ := e
    obtain ⟨hne, hmem⟩ := not_or.1 (mt List.mem_cons.2 h)
    rw [insert, if_neg (Ne.symm hne), ih hmem, List.cons_append]

theorem keys_insert_of_mem (h : k ∈ keys es) : keys (insert k d es) = keys es := by
  induction es with
  | nil => cases h
  | cons e es ih =>
    obtain ⟨l, d'⟩ := e
    unfold insert
    split
    · next heq =>
      subst heq
      rfl
    · next hne =>
      have hmem : k ∈ keys es := (List.mem_cons.1 h).resolve_left (Ne.symm hne)
      exact congrArg (l :: ·) (ih hmem)

theorem nodup_insert (h : (keys es).Nodup) : (keys (insert k d es)).Nodup := by
  by_cases hmem : k ∈ keys es
  · rwa [keys_insert_of_mem hmem]
  · rw [insert_of_notMem hmem, keys, List.map_append, List.map_singleton]
    refine List.nodup_append.2 ⟨h, List.pairwise_singleton _ _, fun l hl l' hl' heq => ?_⟩
    have hk : l = k := heq.trans (List.mem_singleton.1 hl')
    exact hmem (hk ▸ hl)

theorem erase_sublist (k : Key) (es : List (Key × Datum)) : (erase k es).Sublist es := by
  induction es with
  | nil => exact .slnil
  | cons e es ih =>
    obtain ⟨l, d⟩ := e
    unfold erase
    split
    · exact List.sublist_cons_self _ _
    · exact ih.cons_cons _

theorem notMem_keys_erase (h : (keys es).Nodup) : k ∉ keys (erase k es) := by
  induction es with
  | nil => exact List.not_mem_nil
  | cons e es ih =>
    obtain ⟨l, d⟩ := e
    obtain ⟨hnot, hnodup⟩ := List.nodup_cons.1 h
    unfold erase
    split
    · next heq => exact heq ▸ hnot
    · next hne => exact fun hmem => (List.mem_cons.1 hmem).elim (Ne.symm hne) (ih hnodup)

theorem nodup_erase (h : (keys es).Nodup) : (keys (erase k es)).Nodup :=
  h.sublist ((erase_sublist k es).map _)

theorem nodup_set (h : (keys t.entries).Nodup) : (keys (t.set k d).entries).Nodup := by
  simp only [set]
  split
  · exact nodup_erase h
  · exact nodup_insert h

theorem find?_insert_self (k : Key) (d : Datum) (es : List (Key × Datum)) :
    find? k (insert k d es) = some d := by
  induction es with
  | nil => simp [insert, find?]
  | cons e es ih =>
    obtain ⟨l, d'⟩ := e
    unfold insert
    split
    · simp [find?]
    · next hne => rw [find?, if_neg hne, ih]

theorem find?_of_notMem (h : k ∉ keys es) : find? k es = none := by
  induction es with
  | nil => rfl
  | cons e es ih =>
    obtain ⟨l, d⟩ := e
    obtain ⟨hne, hmem⟩ := not_or.1 (mt List.mem_cons.2 h)
    rw [find?, if_neg (Ne.symm hne), ih hmem]

theorem find?_eq_some_iff (h : (keys es).Nodup) : find? k es = some d ↔ (k, d) ∈ es := by
  induction es with
  | nil => simp [find?]
  | cons e es ih =>
    obtain ⟨l, d'⟩ := e
    obtain ⟨hnot, hnodup⟩ := List.nodup_cons.1 h
    rw [find?, List.mem_cons, Prod.mk.injEq]
    split
    · next heq =>
      subst heq
      have hrest : (l, d) ∉ es := fun hmem => hnot (List.mem_map.2 ⟨_, hmem, rfl⟩)
      simp [hrest, eq_comm]
    · next hne => simp [ih hnodup, Ne.symm hne]

theorem isSome_find?_iff (h : (keys es).Nodup) : (find? k es).isSome ↔ k ∈ keys es := by
  rw [Option.isSome_iff_exists, keys, List.mem_map]
  constructor
  · rintro ⟨d, hd⟩
    exact ⟨(k, d), (find?_eq_some_iff h).1 hd, rfl⟩
  · rintro ⟨⟨_, d⟩, hmem, rfl⟩
    exact ⟨d, (find?_eq_some_iff h).2 hmem⟩

/-- What was stored is found; after storing nothing, nothing is. -/
theorem get_set_self (h : (keys t.entries).Nodup) (k : Key) (d : Datum) :
    (t.set k d).get k = d := by
  cases d with
  | nil => simp [set, get, get?, Datum.isNil, find?_of_notMem (notMem_keys_erase h)]
  | _ => simp [set, get, get?, Datum.isNil, find?_insert_self]

/-- Entries with different keys are kept if they hold something. -/
theorem entries_ofEntries (h : (keys es).Nodup) :
    (ofEntries es).entries = es.filter (!·.2.isNil) := by
  suffices hall : ∀ t : Table, (keys (t.entries ++ es)).Nodup →
      (es.foldl (fun t e => t.set e.1 e.2) t).entries = t.entries ++ es.filter (!·.2.isNil) from
    hall {} h
  clear h
  induction es with
  | nil => exact fun t _ => (List.append_nil _).symm
  | cons e es ih =>
    intro t h
    obtain ⟨k, d⟩ := e
    have hk : k ∉ keys t.entries := by
      rw [keys, List.map_append, List.map_cons] at h
      exact fun hmem => (List.nodup_append.1 h).2.2 k hmem k List.mem_cons_self rfl
    rw [List.foldl_cons, List.filter_cons]
    cases hd : d.isNil with
    | true =>
      have hset : t.set k d = t := by simp [set, hd, erase_of_notMem hk]
      have hsub : (keys (t.entries ++ es)).Nodup :=
        h.sublist (((List.sublist_cons_self _ _).append_left _).map _)
      rw [hset, ih t hsub]
      simp
    | false =>
      have hset : (t.set k d).entries = t.entries ++ [(k, d)] := by
        simp [set, hd, insert_of_notMem hk]
      rw [ih (t.set k d) (by rwa [hset, List.append_assoc])]
      simp [hset]

/-! ## Borders -/

theorem toInt_ofNat (h : n < 9223372036854775808) : (Int64.ofNat n).toInt = n :=
  Int64.toInt_ofNat_of_lt h

theorem hasIndex_iff (h : n < 9223372036854775808) {ks : List Key} :
    HasIndex ks n ↔ Key.int (Int64.ofNat n) ∈ ks := by
  constructor
  · rintro ⟨i, hi, hmem⟩
    rwa [← Int64.toInt_inj.1 (hi.trans (toInt_ofNat h).symm)]
  · exact fun hmem => ⟨_, toInt_ofNat h, hmem⟩

theorem Sound.hasIndex_iff (h : t.Sound) (hn : n < 9223372036854775808) :
    t.hasIndex n = true ↔ HasIndex (keys t.entries) n := by
  rw [Table.hasIndex_iff hn]
  exact isSome_find?_iff h.nodup

/-- There are at least as many keys as indices among them. -/
theorem le_length_of_hasIndex {ks : List Key}
    (h : ∀ i : Int, 1 ≤ i → i ≤ n → HasIndex ks i) : n ≤ ks.length := by
  have hall : ∀ i ∈ List.range n, ∃ k : Int64, k.toInt = (i : Int) + 1 ∧ Key.int k ∈ ks := by
    intro i hi
    have hlt : i < n := List.mem_range.1 hi
    exact h (i + 1) (by omega) (by omega)
  choose! index hindex hmem using hall
  have hnodup : ((List.range n).map fun i => Key.int (index i)).Nodup := by
    refine List.pairwise_map.2 (List.nodup_range.imp_of_mem fun {i j} hi hj hne heq => hne ?_)
    have hi' := hindex i hi
    rw [Key.int.inj heq, hindex j hj] at hi'
    omega
  have hle := (hnodup.subperm (List.forall_mem_map.2 hmem)).length_le
  rwa [List.length_map, List.length_range] at hle

/-- The search for a border, with all indices up to `n` present and enough left to look at. -/
theorem Sound.isBorder_borderFrom (h : t.Sound) {fuel : Nat} (hn : n + fuel = t.entries.length)
    (hall : ∀ i : Int, 1 ≤ i → i ≤ n → HasIndex (keys t.entries) i) :
    IsBorder (keys t.entries) (t.borderFrom fuel n) := by
  have hlast : n = 0 ∨ HasIndex (keys t.entries) n := by
    rcases Nat.eq_zero_or_pos n with hzero | hpos
    · exact .inl hzero
    · exact .inr (hall n (by omega) (by omega))
  have hsize := h.size
  induction fuel generalizing n with
  | zero =>
    -- There are no more keys than indices already.
    refine ⟨hlast, fun hnext => ?_⟩
    have hmore : n + 1 ≤ (keys t.entries).length := by
      refine le_length_of_hasIndex fun i hi hle => ?_
      rcases Int.lt_or_le n i with hlt | hle'
      · have heq : i = (n : Int) + 1 := by omega
        rwa [heq]
      · exact hall i hi hle'
    rw [keys, List.length_map] at hmore
    omega
  | succ fuel ih =>
    have hiff := h.hasIndex_iff (n := n + 1) (by omega)
    unfold borderFrom
    split
    · next hnext =>
      have hindex : HasIndex (keys t.entries) ((n + 1 : Nat) : Int) := hiff.1 hnext
      refine ih (by omega) (fun i hi hle => ?_) (.inr hindex)
      rcases Int.lt_or_le n i with hlt | hle'
      · have heq : i = ((n + 1 : Nat) : Int) := by omega
        rwa [heq]
      · exact hall i hi hle'
    · next hnext => exact ⟨hlast, fun hindex => hnext (hiff.2 hindex)⟩

theorem Sound.isBorder_border (h : t.Sound) : IsBorder (keys t.entries) t.border :=
  h.isBorder_borderFrom (Nat.zero_add _) fun i hi hle => by omega

/-! ## Sequences -/

theorem sequenceIndex?_eq_some_iff {i : Int} :
    sequenceIndex? n k = some i ↔ ∃ j : Int64, k = .int j ∧ j.toInt = i ∧ 1 ≤ i ∧ i ≤ n := by
  cases k with
  | int j =>
    simp only [sequenceIndex?, Option.ite_none_right_eq_some, Option.some.injEq, Key.int.injEq]
    constructor
    · rintro ⟨⟨hpos, hle⟩, rfl⟩
      exact ⟨j, rfl, rfl, hpos, hle⟩
    · rintro ⟨j, rfl, rfl, hpos, hle⟩
      exact ⟨⟨hpos, hle⟩, rfl⟩
  | _ => simp [sequenceIndex?]

/-- The keys are the indices from one up to `n`, which is not zero. -/
structure IsSequence (ks : List Key) (n : Nat) : Prop where
  pos : 0 < n
  index : ∀ k ∈ ks, (sequenceIndex? n k).isSome
  present : ∀ i : Int, 1 ≤ i → i ≤ n → HasIndex ks i

theorem IsSequence.of_mem_iff {ks ls : List Key} (h : IsSequence ks n)
    (hmem : ∀ k, k ∈ ls ↔ k ∈ ks) : IsSequence ls n := by
  refine ⟨h.pos, fun k hk => h.index k ((hmem k).1 hk), fun i hi hle => ?_⟩
  exact (h.present i hi hle).of_mem_iff hmem

theorem IsSequence.le_of_hasIndex {ks : List Key} (h : IsSequence ks n) {i : Int}
    (hi : HasIndex ks i) : i ≤ n := by
  obtain ⟨x, rfl, hmem⟩ := hi
  obtain ⟨j, hj⟩ := Option.isSome_iff_exists.1 (h.index _ hmem)
  obtain ⟨y, hkey, rfl, -, hle⟩ := sequenceIndex?_eq_some_iff.1 hj
  rwa [Key.int.inj hkey]

/-- A sequence has no border but its length. -/
theorem IsSequence.border_eq {ks : List Key} {m : Nat} (h : IsSequence ks m)
    (hborder : IsBorder ks n) : n = m := by
  obtain ⟨hlast, hnext⟩ := hborder
  have hle : n ≤ m := by
    rcases hlast with rfl | hindex
    · exact Nat.zero_le m
    · have hle := h.le_of_hasIndex hindex
      omega
  have hge : ¬ n < m := fun hlt => hnext (h.present _ (by omega) (by omega))
  omega

/-! ## The standard view -/

/-- The entries in sequence. -/
def sequence (t : Table) (n : Nat) : List (Key × Datum) :=
  (List.range n).filterMap fun i =>
    (t.get? (.int (Int64.ofNat (i + 1)))).map (Key.int (Int64.ofNat (i + 1)), ·)

theorem IsBorder.lt {ks : List Key} (h : IsBorder ks n) : n < 9223372036854775808 := by
  rcases h.1 with rfl | ⟨i, hi, -⟩
  · decide
  · have hlt := i.toInt_lt
    omega

theorem mem_sequence (h : t.Sound) (hn : n < 9223372036854775808) {e : Key × Datum} :
    e ∈ t.sequence n ↔ e ∈ t.entries ∧ (sequenceIndex? n e.1).isSome := by
  obtain ⟨k, d⟩ := e
  simp only [sequence, List.mem_filterMap, List.mem_range, Option.map_eq_some_iff, Prod.mk.injEq,
    Option.isSome_iff_exists, get?]
  constructor
  · rintro ⟨i, hi, _, hfind, rfl, rfl⟩
    refine ⟨(find?_eq_some_iff h.nodup).1 hfind, _, sequenceIndex?_eq_some_iff.2 ⟨_, rfl, rfl, ?_⟩⟩
    rw [toInt_ofNat (by omega)]
    omega
  · rintro ⟨hmem, i, hi⟩
    obtain ⟨j, rfl, rfl, hpos, hle⟩ := sequenceIndex?_eq_some_iff.1 hi
    have hj : Int64.ofNat ((j.toInt - 1).toNat + 1) = j := by
      refine Int64.toInt_inj.1 ?_
      rw [toInt_ofNat (by omega)]
      omega
    refine ⟨(j.toInt - 1).toNat, by omega, d, ?_, ?_, rfl⟩
    · rw [hj]
      exact (find?_eq_some_iff h.nodup).2 hmem
    · rw [hj]

theorem nodup_sequence (hn : n < 9223372036854775808) : (t.sequence n).Nodup := by
  refine List.pairwise_filterMap.2 (List.nodup_range.imp_of_mem ?_)
  intro i j hi hj hne e he e' he' heq
  obtain ⟨d, -, rfl⟩ := Option.map_eq_some_iff.1 he
  obtain ⟨d', -, rfl⟩ := Option.map_eq_some_iff.1 he'
  have hi' := toInt_ofNat (n := i + 1) (by have := List.mem_range.1 hi; omega)
  have hj' := toInt_ofNat (n := j + 1) (by have := List.mem_range.1 hj; omega)
  rw [Key.int.inj (Prod.mk.inj heq).1, hj'] at hi'
  exact hne (by omega)

/-- The entries of a table, first those in sequence, are all its entries. -/
theorem Sound.pairs_perm (h : t.Sound) : t.pairs.Perm t.entries := by
  have hn := h.isBorder_border.lt
  have hentries : t.entries.Nodup := List.Nodup.of_map _ h.nodup
  have hsequence : (t.sequence t.border).Perm
      (t.entries.filter fun e => (sequenceIndex? t.border e.1).isSome) :=
    (List.perm_ext_iff_of_nodup (nodup_sequence hn) (hentries.filter _)).2 fun e => by
      rw [mem_sequence h hn, List.mem_filter]
  have hothers : (fun e : Key × Datum => (sequenceIndex? t.border e.1).isNone) =
      fun e => !(sequenceIndex? t.border e.1).isSome := by
    funext e
    exact (Option.not_isSome _).symm
  have hall := (hsequence.append_right
    (t.entries.filter fun e => !(sequenceIndex? t.border e.1).isSome)).trans
    (List.filter_append_perm _ t.entries)
  rw [← hothers] at hall
  exact hall

end Table

/-- A view that meets every entry of a table once and takes one of its borders for its length. -/
structure TableView.Lawful (view : TableView) : Prop where
  border : ∀ t : Table, t.Sound → Table.IsBorder (Table.keys t.entries) (view.border t)
  pairs : ∀ t : Table, t.Sound → (view.pairs t).Perm t.entries

theorem TableView.standard_lawful : TableView.standard.Lawful :=
  ⟨fun _ h => h.isBorder_border, fun _ h => h.pairs_perm⟩

end TextTemplate.Embedded
