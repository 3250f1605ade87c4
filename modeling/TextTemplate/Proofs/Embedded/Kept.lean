import Mathlib.Data.List.Dedup
import TextTemplate.Proofs.Embedded.Endless
import TextTemplate.Proofs.Embedded.Stored
set_option autoImplicit false

/-!
# Kept: what of a table is in its value

A table whose entries have values has a value itself.  If its keys are the indices from one up to
some number, that is the list of the values by index.  Otherwise it is a map with one entry for each
text that a key has, so nothing is lost unless two keys have the same text (`exists_result_kept`).
Then one entry takes the place of the others: one in sequence before all that are not, and a later
one before an earlier.  Without such keys the value does not depend on how the table is looked at
(`exists_result_of_distinct`).
-/

namespace TextTemplate.Embedded

open Table (keys HasIndex IsBorder IsSequence sequenceIndex? sequenceIndex?_eq_some_iff)

variable {ω : Type}

/-! ## Sequences -/

section Sequence

variable {α : Type} {es : List (Key × α)} {n : Nat}

theorem Table.IsSequence.lt {ks : List Key} (h : IsSequence ks n) : n < 9223372036854775808 := by
  obtain ⟨k, hk, -⟩ := h.present n (by have := h.pos; omega) (Int.le_refl _)
  have hlt := k.toInt_lt
  omega

theorem Table.IsSequence.unique {ks : List Key} {m : Nat} (h : IsSequence ks n) (h' : IsSequence ks m) :
    n = m := by
  have hle := h.le_of_hasIndex (h'.present m (by have := h'.pos; omega) (Int.le_refl _))
  have hle' := h'.le_of_hasIndex (h.present n (by have := h.pos; omega) (Int.le_refl _))
  omega

/-- Entries whose keys are the indices up to some number are data at these indices. -/
theorem exists_perm_sequenceOf (hnodup : (keys es).Nodup) (h : IsSequence (keys es) n) :
    ∃ vs : List α, vs ≠ [] ∧ vs.length = n ∧ es.Perm (sequenceOf vs) := by
  have hsize := h.lt
  have hall : ∀ i : Fin n, ∃ v, (Key.int (Int64.ofNat (i + 1)), v) ∈ es := by
    intro i
    obtain ⟨k, hk, hmem⟩ := h.present (i + 1) (by omega) (by omega)
    obtain ⟨⟨_, v⟩, he, rfl⟩ := List.mem_map.1 hmem
    have hindex : k = Int64.ofNat (i + 1) := by
      refine Int64.toInt_inj.1 ?_
      rw [hk, Table.toInt_ofNat (by omega)]
      omega
    exact ⟨v, hindex ▸ he⟩
  choose item hitem using hall
  have hlength : (List.ofFn item).length = n := List.length_ofFn
  have hne : List.ofFn item ≠ [] := List.length_pos_iff.1 (by rw [hlength]; exact h.pos)
  refine ⟨List.ofFn item, hne, hlength, ?_⟩
  have hsequence : (keys (sequenceOf (List.ofFn item))).Nodup :=
    nodup_sequenceOf (by rwa [hlength])
  -- On both sides the keys differ, so it is enough that the same entries are there.
  refine (List.perm_ext_iff_of_nodup (.of_map _ hnodup) (.of_map _ hsequence)).2 fun e => ?_
  rw [mem_sequenceOf]
  constructor
  · intro he
    obtain ⟨k, v⟩ := e
    obtain ⟨_, hindex⟩ := Option.isSome_iff_exists.1 (h.index k (List.mem_map_of_mem he))
    obtain ⟨j, rfl, rfl, hpos, hle⟩ := sequenceIndex?_eq_some_iff.1 hindex
    have hj : Int64.ofNat ((j.toInt - 1).toNat + 1) = j := by
      refine Int64.toInt_inj.1 ?_
      rw [Table.toInt_ofNat (by omega)]
      omega
    refine ⟨(j.toInt - 1).toNat, by omega, ?_⟩
    refine List.inj_on_of_nodup_map hnodup ?_ he (congrArg Key.int hj)
    rw [List.getElem_ofFn]
    exact hitem ⟨(j.toInt - 1).toNat, by omega⟩
  · rintro ⟨i, hi, rfl⟩
    rw [List.getElem_ofFn]
    exact hitem ⟨i, by omega⟩

end Sequence

/-! ## Maps -/

section Map

variable {es : List (Key × Value ω)} {n : Nat} {s : String} {v : Value ω}

/-- The map of entries: the last under each text, with those in sequence after all others. -/
def kept (n : Nat) (es : List (Key × Value ω)) : List (String × Value ω) :=
  Entries.insertAll (Entries.ofList (named n es))
    ((Entries.ofList (indexed n es)).map fun e => (toString e.1, e.2))

theorem assemble_eq_map (hnodup : (keys es).Nodup) (hnot : ¬ IsSequence (keys es) n) :
    assemble n (es.map fun e => (e.1.place n, e.2)) = .map (kept n es) := by
  rw [assemble_place]
  refine if_neg ?_
  rintro ⟨hempty, hpos, hlength⟩
  have hindexed := (Entries.ofList_perm (nodup_indexed (n := n) hnodup)).length_eq
  have hnamed : named n es = [] := by
    cases hes : named n es with
    | nil => rfl
    | cons e others =>
      have hmem : e.1 ∈ Entries.keys (Entries.ofList (named n es)) :=
        Entries.mem_keys_insertAll_iff.2 (.inr (hes ▸ List.mem_cons_self))
      rw [List.isEmpty_iff.1 hempty] at hmem
      cases hmem
  exact hnot (isSequence_of_indexed hnodup hpos hnamed (hindexed ▸ hlength))

theorem ordered_kept (n : Nat) (es : List (Key × Value ω)) : Entries.Ordered (kept n es) :=
  Entries.ordered_insertAll _ (Entries.ordered_ofList _)

/-- The entries in sequence, under the texts of their indices. -/
theorem mem_sequence_iff (hnodup : (keys es).Nodup) :
    (s, v) ∈ (Entries.ofList (indexed n es)).map (fun e => (toString e.1, e.2)) ↔
      ∃ e ∈ es, (sequenceIndex? n e.1).isSome ∧ (e.1.text, e.2) = (s, v) := by
  have hperm := (Entries.ofList_perm (nodup_indexed (n := n) hnodup)).map
    fun e => ((toString e.1, e.2) : String × Value ω)
  rw [hperm.mem_iff, map_indexed]
  simp only [List.mem_map, List.mem_filter, and_assoc]

theorem mem_named_iff :
    (s, v) ∈ named n es ↔
      ∃ e ∈ es, (sequenceIndex? n e.1).isNone ∧ (e.1.text, e.2) = (s, v) := by
  simp only [named, List.mem_map, List.mem_filter, and_assoc]

/-- A map holds one of the entries under each text that a key has. -/
theorem exists_of_find?_kept (hnodup : (keys es).Nodup)
    (h : Entries.find? s (kept n es) = some v) : ∃ e ∈ es, e.1.text = s ∧ e.2 = v := by
  rcases Entries.mem_insertAll (Entries.mem_of_find?_eq_some h) with hmem | hmem
  · obtain ⟨e, he, -, heq⟩ := mem_named_iff.1 (Entries.mem_of_mem_ofList hmem)
    exact ⟨e, he, Prod.mk.inj heq⟩
  · obtain ⟨e, he, -, heq⟩ := (mem_sequence_iff hnodup).1 hmem
    exact ⟨e, he, Prod.mk.inj heq⟩

theorem mem_keys_kept_iff (hnodup : (keys es).Nodup) :
    s ∈ Entries.keys (kept n es) ↔ s ∈ (keys es).map Key.text := by
  have hindexed := (Entries.ofList_perm (nodup_indexed (n := n) hnodup)).map
    fun e => ((toString e.1, e.2) : String × Value ω)
  have hall := (hindexed.append_left (named n es)).trans (named_append_indexed_perm n es)
  have hkeys := (hall.map Prod.fst).mem_iff (a := s)
  rw [List.map_append, List.mem_append] at hkeys
  rw [kept, Entries.mem_keys_insertAll_iff, Entries.mem_keys_ofList_iff, ← keys_map_text]
  exact hkeys

theorem toString_int_injective {i j : Int} (hi : 0 ≤ i) (hj : 0 ≤ j)
    (h : toString i = toString j) : i = j := by
  obtain ⟨m, rfl⟩ := Int.eq_ofNat_of_zero_le hi
  obtain ⟨n, rfl⟩ := Int.eq_ofNat_of_zero_le hj
  exact congrArg Int.ofNat (toString_injective h)

theorem nodup_keys_sequence (hnodup : (keys es).Nodup) :
    (Entries.keys ((Entries.ofList (indexed n es)).map fun e => (toString e.1, e.2))).Nodup := by
  have hindexed := Entries.ofList_perm (nodup_indexed (n := n) hnodup)
  have hkeys : (Entries.keys (Entries.ofList (indexed n es))).Nodup :=
    (hindexed.map Prod.fst).nodup_iff.2 (nodup_indexed hnodup)
  have hpos : ∀ i ∈ Entries.keys (Entries.ofList (indexed n es)), 0 ≤ i := by
    intro i hi
    obtain ⟨e, he, rfl⟩ := List.mem_map.1 hi
    obtain ⟨e', -, heq⟩ := List.mem_filterMap.1 (hindexed.mem_iff.1 he)
    obtain ⟨j, hindex, rfl⟩ := Option.map_eq_some_iff.1 heq
    obtain ⟨_, -, -, hone, -⟩ := sequenceIndex?_eq_some_iff.1 hindex
    exact Int.le_trans (by decide) hone
  rw [Entries.keys, List.map_map]
  refine List.pairwise_map.2 ((List.pairwise_map.1 hkeys).imp_of_mem ?_)
  intro e e' he he' hne heq
  exact hne (toString_int_injective (hpos _ (List.mem_map_of_mem he))
    (hpos _ (List.mem_map_of_mem he')) heq)

/-- An entry in sequence is kept. -/
theorem find?_kept_of_index (hnodup : (keys es).Nodup) {e : Key × Value ω} (he : e ∈ es)
    (hindex : (sequenceIndex? n e.1).isSome) :
    Entries.find? e.1.text (kept n es) = some e.2 := by
  exact Entries.find?_insertAll_of_mem (nodup_keys_sequence hnodup)
    ((mem_sequence_iff hnodup).2 ⟨e, he, hindex, rfl⟩)

/-- Another entry is kept if no one in sequence, and no later one, has its text. -/
theorem find?_kept_of_last {before after : List (Key × Value ω)} {e : Key × Value ω}
    (hsplit : es = before ++ e :: after) (hnodup : (keys es).Nodup)
    (hsequence : ∀ e' ∈ es, e'.1.text = e.1.text → (sequenceIndex? n e'.1).isNone)
    (hlast : ∀ e' ∈ after, e'.1.text ≠ e.1.text) :
    Entries.find? e.1.text (kept n es) = some e.2 := by
  have hmem : e ∈ es := hsplit ▸ List.mem_append_right _ List.mem_cons_self
  have hsequence' : e.1.text ∉
      Entries.keys ((Entries.ofList (indexed n es)).map fun e => (toString e.1, e.2)) := by
    intro htext
    obtain ⟨⟨s, v⟩, hfound, rfl⟩ := List.mem_map.1 htext
    obtain ⟨e', he', hindex, heq⟩ := (mem_sequence_iff hnodup).1 hfound
    have hnone := hsequence e' he' (Prod.mk.inj heq).1
    rw [← Option.not_isSome, hindex] at hnone
    cases hnone
  have hnamed : named n es = named n before ++ (e.1.text, e.2) :: named n after := by
    have hhere : (e :: after).filter (fun e => (sequenceIndex? n e.1).isNone) =
        e :: after.filter fun e => (sequenceIndex? n e.1).isNone :=
      List.filter_cons_of_pos (hsequence e hmem rfl)
    rw [hsplit, named, List.filter_append, hhere, List.map_append, List.map_cons]
    rfl
  have hafter : e.1.text ∉ Entries.keys (named n after) := by
    intro htext
    obtain ⟨⟨s, v⟩, hfound, rfl⟩ := List.mem_map.1 htext
    obtain ⟨e', he', -, heq⟩ := mem_named_iff.1 hfound
    exact hlast e' he' (Prod.mk.inj heq).1
  -- Nothing in sequence takes the place of the entry, and of the others it is the last.
  rw [kept, Entries.find?_insertAll_of_notMem hsequence', Entries.ofList, hnamed]
  exact Entries.find?_insertAll_of_last hafter

end Map

/-! ## The value of a table -/

section Table

variable {view : TableView} {heap : Heap} {t : Table} {id : Nat} {value : Datum → Value ω}

/-- The entries of a table with their values, in the order in which they are met. -/
def met (view : TableView) (value : Datum → Value ω) (t : Table) : List (Key × Value ω) :=
  (view.pairs t).map fun e => (e.1, value e.2)

theorem mem_met_of_mem (hview : view.Lawful) (hsound : t.Sound) {e : Key × Datum}
    (he : e ∈ t.entries) : (e.1, value e.2) ∈ met view value t :=
  List.mem_map.2 ⟨e, (hview.pairs t hsound).mem_iff.2 he, rfl⟩

theorem exists_of_mem_met (hview : view.Lawful) (hsound : t.Sound) {e : Key × Value ω}
    (he : e ∈ met view value t) : ∃ e' ∈ t.entries, (e'.1, value e'.2) = e := by
  obtain ⟨e', he', heq⟩ := List.mem_map.1 he
  exact ⟨e', (hview.pairs t hsound).mem_iff.1 he', heq⟩

theorem keys_met_perm (hview : view.Lawful) (hsound : t.Sound) (value : Datum → Value ω) :
    (keys (met view value t)).Perm (keys t.entries) := by
  rw [keys, met, List.map_map]
  exact (hview.pairs t hsound).map Prod.fst

theorem nodup_keys_met (hview : view.Lawful) (hsound : t.Sound) (value : Datum → Value ω) :
    (keys (met view value t)).Nodup :=
  (keys_met_perm hview hsound value).nodup_iff.2 hsound.nodup

theorem not_isSequence_met (hview : view.Lawful) (hsound : t.Sound) (value : Datum → Value ω)
    (hnot : ∀ n, ¬ IsSequence (keys t.entries) n) (n : Nat) :
    ¬ IsSequence (keys (met view value t)) n :=
  fun h => hnot n (h.of_mem_iff fun _ => (keys_met_perm hview hsound value).mem_iff.symm)

/-- A table has a value if its entries have: what these go into, met in the order of the view. -/
theorem result_table (hview : view.Lawful) (ht : heap.table id = t) (hsound : t.Sound)
    (hnamed : ∀ k ∈ keys t.entries, k.Named)
    (hitem : ∀ e ∈ t.entries, result view heap e.2 = .ok (value e.2)) :
    result view heap (.table id) =
      .ok (assemble (view.border t) ((met view value t).map
        fun e => (e.1.place (view.border t), e.2))) := by
  have hpairs := hview.pairs t hsound
  have hnamed' : ∀ e ∈ view.pairs t, e.1.Named := fun e he =>
    hnamed e.1 (List.mem_map_of_mem (hpairs.mem_iff.1 he))
  have hitem' : ∀ e ∈ view.pairs t,
      e.2.toValueWith (tableValue view heap (heap.size + 1)) = pure (value e.2) := by
    intro e he
    exact toValue_of_result (hitem e (hpairs.mem_iff.1 he))
  refine (result_eq_ok_iff hview).2 ⟨heap.size + 2, ?_⟩
  change tableValue view heap (heap.size + 1 + 1) id = _
  rw [tableValue, ht, slots_eq hnamed' hitem', pure_bind, met, List.map_map]
  rfl

/-- Data at the indices from one on make up the list of their values. -/
theorem result_of_sequence (hview : view.Lawful) (ht : heap.table id = t) (hsound : t.Sound)
    (hnamed : ∀ k ∈ keys t.entries, k.Named)
    (hitem : ∀ e ∈ t.entries, result view heap e.2 = .ok (value e.2)) {ds : List Datum}
    (hne : ds ≠ []) (hperm : t.entries.Perm (sequenceOf ds)) :
    result view heap (.table id) = .ok (.list (ds.map value)) := by
  have hsize : (ds.map value).length < 9223372036854775808 := by
    rw [List.length_map, ← length_sequenceOf, ← hperm.length_eq]
    exact hsound.size
  have hsequence : (sequenceOf ds).map (fun e => (e.1, value e.2)) = sequenceOf (ds.map value) := by
    refine List.ext_getElem (by simp [sequenceOf]) fun i hi hi' => ?_
    simp [sequenceOf]
  have hentries : (met view value t).Perm (sequenceOf (ds.map value)) :=
    hsequence ▸ ((hview.pairs t hsound).trans hperm).map _
  have hborder := (hview.border t hsound).of_mem_iff
    fun _ => (keys_met_perm hview hsound value).mem_iff
  rw [result_table hview ht hsound hnamed hitem,
    assemble_list hentries (mt List.map_eq_nil_iff.1 hne) hsize hborder]

/-- What other data make up is the map that keeps one for each text. -/
theorem result_of_not_sequence (hview : view.Lawful) (ht : heap.table id = t) (hsound : t.Sound)
    (hnamed : ∀ k ∈ keys t.entries, k.Named)
    (hitem : ∀ e ∈ t.entries, result view heap e.2 = .ok (value e.2))
    (hnot : ∀ n, ¬ IsSequence (keys t.entries) n) :
    result view heap (.table id) =
      .ok (.map (kept (view.border t) (met view value t))) := by
  rw [result_table hview ht hsound hnamed hitem,
    assemble_eq_map (nodup_keys_met hview hsound value)
      (not_isSequence_met hview hsound value hnot _)]

/-- A map has one entry for each text of a key, and in it the value of an entry under such a key. -/
structure KeptIn (t : Table) (value : Datum → Value ω) (m : List (String × Value ω)) : Prop where
  ordered : Entries.Ordered m
  mem_keys_iff : ∀ s, s ∈ Entries.keys m ↔ s ∈ (keys t.entries).map Key.text
  found : ∀ s v, Entries.find? s m = some v → ∃ e ∈ t.entries, e.1.text = s ∧ value e.2 = v

theorem keptIn_kept (hview : view.Lawful) (hsound : t.Sound) :
    KeptIn t value (kept (view.border t) (met view value t)) := by
  have hnodup := nodup_keys_met hview hsound value
  refine ⟨ordered_kept _ _, fun s => ?_, fun s v hfind => ?_⟩
  · rw [mem_keys_kept_iff hnodup, ((keys_met_perm hview hsound value).map Key.text).mem_iff]
  · obtain ⟨e, he, rfl, rfl⟩ := exists_of_find?_kept hnodup hfind
    obtain ⟨e', he', rfl⟩ := exists_of_mem_met hview hsound he
    exact ⟨e', he', rfl, rfl⟩

/-- An entry whose key shares its text with no other key is not lost. -/
theorem KeptIn.find?_of_alone {m : List (String × Value ω)} (h : KeptIn t value m)
    {e : Key × Datum} (he : e ∈ t.entries)
    (halone : ∀ e' ∈ t.entries, e'.1.text = e.1.text → e' = e) :
    Entries.find? e.1.text m = some (value e.2) := by
  have hmem : e.1.text ∈ Entries.keys m :=
    (h.mem_keys_iff _).2 (List.mem_map_of_mem (List.mem_map_of_mem he))
  obtain ⟨v, hv⟩ := Option.isSome_iff_exists.1 (Entries.find?_isSome_iff.2 hmem)
  obtain ⟨e', he', htext, rfl⟩ := h.found _ _ hv
  rw [hv, halone e' he' htext]

/-- There are as many entries as there are texts. -/
theorem KeptIn.length_eq {m : List (String × Value ω)} (h : KeptIn t value m) :
    m.length = ((keys t.entries).map Key.text).dedup.length := by
  have hperm : (Entries.keys m).Perm ((keys t.entries).map Key.text).dedup :=
    (List.perm_ext_iff_of_nodup (Entries.ordered_nodup h.ordered) (List.nodup_dedup _)).2
      fun s => by rw [h.mem_keys_iff, List.mem_dedup]
  rw [← hperm.length_eq, Entries.keys, List.length_map]

theorem KeptIn.length_eq_iff {m : List (String × Value ω)} (h : KeptIn t value m) :
    m.length = t.entries.length ↔ ((keys t.entries).map Key.text).Nodup := by
  have hlength : ((keys t.entries).map Key.text).length = t.entries.length := by
    rw [List.length_map, keys, List.length_map]
  rw [h.length_eq, ← hlength, ← List.dedup_eq_self]
  exact ⟨(List.dedup_sublist _).eq_of_length, congrArg List.length⟩

/-- What of a table is in its value.  Of a sequence it is everything, each entry in its place.  Of
any other table it is one entry for each text that a key has, and so everything exactly if no two
keys have the same text.  If several have, an index up to the length is kept, and without one the
entry that is met last. -/
theorem exists_result_kept (hview : view.Lawful) (ht : heap.table id = t) (hsound : t.Sound)
    (hnamed : ∀ k ∈ keys t.entries, k.Named)
    (hitem : ∀ e ∈ t.entries, result view heap e.2 = .ok (value e.2)) :
    (∀ n, IsSequence (keys t.entries) n →
      ∃ items, result view heap (.table id) = .ok (.list items) ∧
        items.length = t.entries.length ∧
        ∀ e ∈ t.entries, ∃ i : Nat,
          e.1 = .int (Int64.ofNat (i + 1)) ∧ items[i]? = some (value e.2)) ∧
    ((∀ n, ¬ IsSequence (keys t.entries) n) →
      ∃ m, result view heap (.table id) = .ok (.map m) ∧ KeptIn t value m ∧
        (m.length = t.entries.length ↔ ((keys t.entries).map Key.text).Nodup) ∧
        (∀ e ∈ t.entries, (∀ e' ∈ t.entries, e'.1.text = e.1.text → e' = e) →
          Entries.find? e.1.text m = some (value e.2)) ∧
        (∀ e ∈ t.entries, (sequenceIndex? (view.border t) e.1).isSome →
          Entries.find? e.1.text m = some (value e.2)) ∧
        ∀ before e after, view.pairs t = before ++ e :: after →
          (∀ e' ∈ t.entries, e'.1.text = e.1.text →
            (sequenceIndex? (view.border t) e'.1).isNone) →
          (∀ e' ∈ after, e'.1.text ≠ e.1.text) →
          Entries.find? e.1.text m = some (value e.2)) := by
  constructor
  · intro n hn
    obtain ⟨ds, hne, -, hperm⟩ := exists_perm_sequenceOf hsound.nodup hn
    refine ⟨ds.map value, result_of_sequence hview ht hsound hnamed hitem hne hperm, ?_, ?_⟩
    · rw [List.length_map, hperm.length_eq, length_sequenceOf]
    · intro e he
      obtain ⟨i, hi, rfl⟩ := mem_sequenceOf.1 (hperm.mem_iff.1 he)
      exact ⟨i, rfl, by rw [List.getElem?_map, List.getElem?_eq_getElem hi, Option.map_some]⟩
  · intro hnot
    have hnodup := nodup_keys_met hview hsound value
    have hkept : KeptIn t value _ := keptIn_kept hview hsound
    refine ⟨_, result_of_not_sequence hview ht hsound hnamed hitem hnot, hkept,
      hkept.length_eq_iff, fun e he => hkept.find?_of_alone he, fun e he hindex => ?_, ?_⟩
    · exact find?_kept_of_index hnodup (mem_met_of_mem hview hsound he) hindex
    · intro before e after hsplit hothers hlast
      have hmet : met view value t = before.map (fun e => (e.1, value e.2)) ++
          (e.1, value e.2) :: after.map fun e => (e.1, value e.2) := by
        rw [met, hsplit, List.map_append, List.map_cons]
      refine find?_kept_of_last hmet hnodup (fun e' he' htext => ?_)
        (List.forall_mem_map.2 hlast)
      obtain ⟨e'', he'', rfl⟩ := exists_of_mem_met hview hsound he'
      exact hothers e'' he'' htext

/-- A table of integers. -/
def integers (es : List (Key × Int64)) : Table := { entries := es.map fun e => (e.1, .int e.2) }

/-- The value of an integer. -/
def integerValue : Datum → Value ω
  | .int i => .int i
  | _ => .null

theorem result_integers (view : TableView) (heap : Heap) (es : List (Key × Int64)) :
    ∀ e ∈ (integers es).entries, result view heap e.2 = .ok (integerValue e.2 : Value ω) := by
  intro e he
  obtain ⟨e', -, rfl⟩ := List.mem_map.1 he
  rfl

instance (k : Key) : Decidable k.Named := inferInstanceAs (Decidable (k.name = .ok k.text))

/-- Of an index and its text the index is kept. -/
theorem exists_result_kept_of_same_text :
    let t := integers [(.int 1, 20), (.ofString "1", 10), (.ofString "x", 3)]
    ∃ m : List (String × Value Unit), result .standard #[t] (.table 0) = .ok (.map m) ∧
      m.length ≠ t.entries.length ∧
      Entries.find? "1" m = some (.int 20) ∧ Entries.find? "x" m = some (.int 3) := by
  intro t
  have hnot : ∀ n, ¬ IsSequence (keys t.entries) n := by
    intro n h
    have hindex := h.index (.ofString "x") (by decide +kernel)
    cases hindex
  have ht : Heap.table #[t] 0 = t := rfl
  obtain ⟨-, hmap⟩ := exists_result_kept TableView.standard_lawful ht
    ⟨by decide +kernel, by decide +kernel⟩ (by decide +kernel)
    (result_integers (ω := Unit) .standard #[t] _)
  obtain ⟨m, hresult, -, hlength, halone, hindex, -⟩ := hmap hnot
  have hone : ∀ e' ∈ t.entries, e'.1.text = Key.text (.ofString "x") →
      e' = (.ofString "x", .int 3) := by
    intro e' he' htext
    simp only [t, integers, List.map_cons, List.map_nil, List.mem_cons, List.not_mem_nil,
      or_false] at he'
    rcases he' with rfl | rfl | rfl
    · exact absurd htext (by decide +kernel)
    · exact absurd htext (by decide +kernel)
    · rfl
  refine ⟨m, hresult, mt hlength.1 (by decide +kernel), ?_, ?_⟩
  · exact hindex (.int 1, .int 20) List.mem_cons_self (by decide +kernel)
  · exact halone (.ofString "x", .int 3) (by simp [t, integers]) hone

/-- The entry under the text of the index is lost. -/
theorem result_loses_text_of_index :
    let t := integers [(.int 1, 20), (.ofString "1", 10)]
    t.Sound ∧ (∀ k ∈ keys t.entries, k.Named) ∧
    (∀ e ∈ t.entries, ∃ v : Value Unit, result .standard #[t] e.2 = .ok v) ∧
    ∃ m : List (String × Value Unit), result .standard #[t] (.table 0) = .ok (.map m) ∧
      m.length = 1 ∧ t.entries.length = 2 ∧ Entries.find? "1" m = some (.int 20) := by
  intro t
  refine ⟨⟨by decide +kernel, by decide +kernel⟩, by decide +kernel, ?_, ?_⟩
  · exact fun e he => ⟨_, result_integers _ _ _ e he⟩
  · exact ⟨[("1", .int 20)], rfl, rfl, rfl, rfl⟩

end Table

end TextTemplate.Embedded
