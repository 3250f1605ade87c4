import TextTemplate.Entries
set_option autoImplicit false

/-!
# Entries: what is stored after a change

Storing or removing a key changes what is found under that key, and nothing else.  That nothing is
left under a removed key rests on the key order, by which no key is stored twice.  The key order
also makes a map the only list of its entries that is in order, so the order in which entries with
different keys are stored does not matter.
-/

namespace TextTemplate.Entries

variable {κ α : Type} [KeyOrder κ]

theorem find?_eq_none_of_not_mem {k : κ} {es : Entries κ α} (h : k ∉ keys es) :
    find? k es = none := by
  induction es with
  | nil => rfl
  | cons e es ih =>
    obtain ⟨k', v⟩ := e
    simp only [keys, List.map_cons, List.mem_cons, not_or] at h
    rw [find?, if_neg h.1]
    exact ih h.2

/-- In a map whose keys increase, removing a key leaves nothing under it. -/
theorem find?_erase {es : Entries κ α} (h : Ordered es) (k k' : κ) :
    find? k' (erase k es) = if k' = k then none else find? k' es := by
  induction es with
  | nil => simp [find?, erase]
  | cons e es ih =>
    obtain ⟨k'', v⟩ := e
    obtain ⟨hlt, hes⟩ := ordered_cons.1 h
    simp only [erase]
    split
    · next heq =>
      subst heq
      simp only [find?]
      split
      · next heq =>
        subst heq
        exact find?_eq_none_of_not_mem fun hmem => KeyOrder.irrefl _ (hlt _ hmem)
      · rfl
    · next hne =>
      simp only [find?, ih hes]
      split
      · next heq =>
        subst heq
        rw [if_neg (Ne.symm hne)]
      · rfl

/-- Removing all keys leaves nothing. -/
theorem foldl_erase_keys (es : Entries κ α) :
    (keys es).foldl (fun m k => erase k m) es = [] := by
  induction es with
  | nil => rfl
  | cons e es ih =>
    obtain ⟨k, v⟩ := e
    have hfirst : erase k ((k, v) :: es) = es := if_pos rfl
    rw [keys, List.map_cons, List.foldl_cons, hfirst]
    exact ih

theorem find?_insert (k k' : κ) (v : α) (es : Entries κ α) :
    find? k' (insert k v es) = if k' = k then some v else find? k' es := by
  induction es with
  | nil => rfl
  | cons e es ih =>
    obtain ⟨k'', w⟩ := e
    simp only [insert]
    split
    · rfl
    · split
      · next heq =>
        subst heq
        simp only [find?]
        split <;> rfl
      · next hne =>
        simp only [find?, ih]
        split
        · next heq => rw [if_neg (heq ▸ Ne.symm hne)]
        · rfl

theorem find?_eq_none_iff {k : κ} {es : Entries κ α} : find? k es = none ↔ k ∉ keys es := by
  refine ⟨fun h => ?_, find?_eq_none_of_not_mem⟩
  induction es with
  | nil => simp [keys]
  | cons e es ih =>
    obtain ⟨k', v⟩ := e
    rw [find?] at h
    split at h
    · simp at h
    · next hne =>
      simp only [keys, List.map_cons, List.mem_cons, not_or]
      exact ⟨hne, ih h⟩

theorem mem_of_find?_eq_some {k : κ} {v : α} {es : Entries κ α} (h : find? k es = some v) :
    (k, v) ∈ es := by
  induction es with
  | nil => simp [find?] at h
  | cons e es ih =>
    obtain ⟨k', v'⟩ := e
    rw [find?] at h
    split at h
    · next heq =>
      cases heq
      cases h
      exact List.mem_cons_self
    · exact List.mem_cons_of_mem _ (ih h)

/-! ## Many entries -/

theorem find?_insertAll_of_notMem {k : κ} {m : Entries κ α} {es : List (κ × α)}
    (h : k ∉ keys es) : find? k (insertAll m es) = find? k m := by
  induction es generalizing m with
  | nil => rfl
  | cons e es ih =>
    simp only [keys, List.map_cons, List.mem_cons, not_or] at h
    exact (ih h.2).trans ((find?_insert e.1 k e.2 m).trans (if_neg h.1))

/-- Of several entries under one key the last is found. -/
theorem find?_insertAll_of_last {k : κ} {v : α} {m : Entries κ α} {es es' : List (κ × α)}
    (h : k ∉ keys es') : find? k (insertAll m (es ++ (k, v) :: es')) = some v := by
  have hsplit : insertAll m (es ++ (k, v) :: es') = insertAll (insert k v (insertAll m es)) es' :=
    List.foldl_append
  rw [hsplit, find?_insertAll_of_notMem h, find?_insert, if_pos rfl]

/-- Of entries under different keys each is found. -/
theorem find?_insertAll_of_mem {k : κ} {v : α} {m : Entries κ α} {es : List (κ × α)}
    (h : (keys es).Nodup) (hmem : (k, v) ∈ es) : find? k (insertAll m es) = some v := by
  obtain ⟨before, after, rfl⟩ := List.append_of_mem hmem
  refine find?_insertAll_of_last fun hafter => ?_
  rw [keys, List.map_append, List.map_cons] at h
  exact (List.nodup_cons.1 (List.nodup_append.1 h).2.1).1 hafter

theorem find?_isSome_iff {k : κ} {es : Entries κ α} : (find? k es).isSome ↔ k ∈ keys es := by
  rw [Option.isSome_iff_ne_none, ne_eq, find?_eq_none_iff, Classical.not_not]

theorem mem_keys_insertAll_iff {k : κ} {m : Entries κ α} {es : List (κ × α)} :
    k ∈ keys (insertAll m es) ↔ k ∈ keys m ∨ k ∈ keys es := by
  induction es generalizing m with
  | nil => simp [insertAll, keys]
  | cons e es ih =>
    have hinsert : k ∈ keys (insert e.1 e.2 m) ↔ k = e.1 ∨ k ∈ keys m := by
      rw [← find?_isSome_iff, ← find?_isSome_iff, find?_insert]
      by_cases heq : k = e.1 <;> simp [heq]
    have hcons : k ∈ keys (e :: es) ↔ k = e.1 ∨ k ∈ keys es := List.mem_cons
    have hall : k ∈ keys (insertAll m (e :: es)) ↔
        k ∈ keys (insert e.1 e.2 m) ∨ k ∈ keys es := ih
    rw [hall, hinsert, hcons, or_assoc, or_left_comm]

theorem mem_keys_ofList_iff {k : κ} {es : List (κ × α)} : k ∈ keys (ofList es) ↔ k ∈ keys es :=
  mem_keys_insertAll_iff.trans (or_iff_right List.not_mem_nil)

/-! ## Entries in another order -/

theorem ordered_nodup {es : Entries κ α} (h : Ordered es) : (keys es).Nodup := by
  refine List.Pairwise.imp ?_ h
  rintro k k' hlt rfl
  exact KeyOrder.irrefl k hlt

theorem insert_perm {k : κ} {v : α} {es : Entries κ α} (h : k ∉ keys es) :
    (insert k v es).Perm ((k, v) :: es) := by
  induction es with
  | nil => rfl
  | cons e es ih =>
    obtain ⟨k', w⟩ := e
    simp only [keys, List.map_cons, List.mem_cons, not_or] at h
    simp only [insert, if_neg h.1]
    split
    · rfl
    · exact ((ih h.2).cons _).trans (List.Perm.swap _ _ _)

theorem insertAll_perm {m : Entries κ α} {es : List (κ × α)} (h : (keys (m ++ es)).Nodup) :
    (insertAll m es).Perm (m ++ es) := by
  induction es generalizing m with
  | nil => simp [insertAll]
  | cons e es ih =>
    obtain ⟨k, v⟩ := e
    have hk : k ∉ keys m := by
      simp only [keys, List.map_append, List.map_cons, List.nodup_append, List.mem_cons] at h
      exact fun hmem => h.2.2 k hmem k (.inl rfl) rfl
    have hinsert : (insert k v m ++ es).Perm (m ++ (k, v) :: es) :=
      ((insert_perm hk).append_right es).trans List.perm_middle.symm
    have hnodup : (keys (insert k v m ++ es)).Nodup := (hinsert.map Prod.fst).nodup_iff.2 h
    exact (ih hnodup).trans hinsert

/-- A map of entries with different keys holds just these. -/
theorem ofList_perm {es : List (κ × α)} (h : (keys es).Nodup) : (ofList es).Perm es :=
  insertAll_perm h

/-- Entries can be brought into key order in one way. -/
theorem eq_of_perm {es es' : Entries κ α} (h : Ordered es) (h' : Ordered es')
    (hperm : es.Perm es') : es = es' := by
  have hlt : es.Pairwise fun e e' => e.1 < e'.1 := List.pairwise_map.1 h
  have hlt' : es'.Pairwise fun e e' => e.1 < e'.1 := List.pairwise_map.1 h'
  refine List.Perm.eq_of_pairwise (fun e e' _ _ hbelow habove => ?_) hlt hlt' hperm
  exact absurd (KeyOrder.trans hbelow habove) (KeyOrder.irrefl _)

/-- Entries with different keys make one map, in whichever order they are stored. -/
theorem ofList_eq_of_perm {es es' : List (κ × α)} (h : (keys es).Nodup) (hperm : es.Perm es') :
    ofList es = ofList es' := by
  have h' : (keys es').Nodup := (hperm.map Prod.fst).nodup_iff.1 h
  exact eq_of_perm (ordered_ofList es) (ordered_ofList es')
    ((ofList_perm h).trans (hperm.trans (ofList_perm h').symm))

/-- Entries in key order are a map already. -/
theorem ofList_eq_self {es : Entries κ α} (h : Ordered es) : ofList es = es :=
  eq_of_perm (ordered_ofList es) h (ofList_perm (ordered_nodup h))

/-! ## What a map holds -/

theorem mem_insert {e : κ × α} {k : κ} {v : α} {es : Entries κ α} (h : e ∈ insert k v es) :
    e = (k, v) ∨ e ∈ es := by
  induction es with
  | nil => exact .inl (List.mem_singleton.1 h)
  | cons e' es ih =>
    obtain ⟨k', w⟩ := e'
    unfold insert at h
    split at h
    · exact List.mem_cons.1 h
    · split at h
      · exact (List.mem_cons.1 h).imp_right (List.mem_cons_of_mem _)
      · rcases List.mem_cons.1 h with rfl | h
        · exact .inr List.mem_cons_self
        · exact (ih h).imp_right (List.mem_cons_of_mem _)

theorem mem_insertAll {e : κ × α} {m : Entries κ α} {es : List (κ × α)}
    (h : e ∈ insertAll m es) : e ∈ m ∨ e ∈ es := by
  induction es generalizing m with
  | nil => exact .inl h
  | cons e' es ih =>
    rcases ih h with h | h
    · rcases mem_insert h with rfl | h
      · exact .inr List.mem_cons_self
      · exact .inl h
    · exact .inr (List.mem_cons_of_mem _ h)

/-- A map holds nothing but the entries it is made of. -/
theorem mem_of_mem_ofList {e : κ × α} {es : List (κ × α)} (h : e ∈ ofList es) : e ∈ es :=
  (mem_insertAll h).resolve_left List.not_mem_nil

theorem mem_insert_self (k : κ) (v : α) (es : Entries κ α) : (k, v) ∈ insert k v es :=
  mem_of_find?_eq_some ((find?_insert k k v es).trans (if_pos rfl))

theorem mem_insert_of_mem {e : κ × α} {k : κ} {v : α} {es : Entries κ α} (hne : e.1 ≠ k)
    (h : e ∈ es) : e ∈ insert k v es := by
  induction es with
  | nil => cases h
  | cons e' es ih =>
    obtain ⟨k', w⟩ := e'
    unfold insert
    split
    · exact List.mem_cons_of_mem _ h
    · split
      · next heq =>
        rcases List.mem_cons.1 h with rfl | h
        · exact absurd heq.symm hne
        · exact List.mem_cons_of_mem _ h
      · rcases List.mem_cons.1 h with rfl | h
        · exact List.mem_cons_self
        · exact List.mem_cons_of_mem _ (ih h)

/-- An entry that no other one of the same key replaces is in the map. -/
theorem mem_ofList {e : κ × α} {es : List (κ × α)} (h : e ∈ es)
    (hone : ∀ e' ∈ es, e'.1 = e.1 → e' = e) : e ∈ ofList es := by
  suffices hall : ∀ m : Entries κ α, e ∈ m ∨ e ∈ es → e ∈ insertAll m es from hall [] (.inr h)
  clear h
  induction es with
  | nil => exact fun m h => h.resolve_right List.not_mem_nil
  | cons e' es ih =>
    intro m h
    obtain ⟨hfirst, hone⟩ := List.forall_mem_cons.1 hone
    refine ih hone (insert e'.1 e'.2 m) ?_
    by_cases hkey : e'.1 = e.1
    · rw [hfirst hkey]
      exact .inl (mem_insert_self _ _ _)
    · rcases h with h | h
      · exact .inl (mem_insert_of_mem (Ne.symm hkey) h)
      · rcases List.mem_cons.1 h with rfl | h
        · exact absurd rfl hkey
        · exact .inr h

theorem length_insert_le (k : κ) (v : α) (es : Entries κ α) :
    (insert k v es).length ≤ es.length + 1 := by
  induction es with
  | nil => simp [insert]
  | cons e es ih =>
    obtain ⟨k', w⟩ := e
    unfold insert
    split
    · simp
    · split
      · simp
      · simpa using ih

theorem length_insertAll_le (m : Entries κ α) (es : List (κ × α)) :
    (insertAll m es).length ≤ m.length + es.length := by
  induction es generalizing m with
  | nil => simp [insertAll]
  | cons e es ih =>
    have hinsert := length_insert_le e.1 e.2 m
    have hrest : (insertAll m (e :: es)).length ≤ (insert e.1 e.2 m).length + es.length :=
      ih (insert e.1 e.2 m)
    rw [List.length_cons]
    omega

theorem length_ofList_le (es : List (κ × α)) : (ofList es).length ≤ es.length := by
  have h := length_insertAll_le [] es
  rwa [List.length_nil, Nat.zero_add] at h

/-! ## Maps of other values -/

variable {β : Type}

theorem map_insert (f : α → β) (k : κ) (v : α) (es : Entries κ α) :
    (insert k v es).map (fun e => (e.1, f e.2)) =
      insert k (f v) (es.map fun e => (e.1, f e.2)) := by
  induction es with
  | nil => rfl
  | cons e es ih =>
    obtain ⟨k', w⟩ := e
    simp only [insert, List.map_cons]
    split
    · rfl
    · split
      · rfl
      · rw [List.map_cons, ih]

theorem ordered_map {f : α → β} {es : Entries κ α} (h : Ordered es) :
    Ordered (es.map fun e => (e.1, f e.2)) := by
  unfold Ordered keys
  rw [List.map_map]
  exact h

theorem find?_map (f : α → β) (k : κ) (es : Entries κ α) :
    find? k (es.map fun e => (e.1, f e.2)) = (find? k es).map f := by
  induction es with
  | nil => rfl
  | cons e es ih =>
    rw [List.map_cons, find?, find?, ih]
    split <;> rfl

/-- Changing the values of the entries changes those of the map. -/
theorem map_ofList (f : α → β) (es : List (κ × α)) :
    (ofList es).map (fun e => (e.1, f e.2)) = ofList (es.map fun e => (e.1, f e.2)) := by
  suffices hall : ∀ m : Entries κ α, (insertAll m es).map (fun e => (e.1, f e.2)) =
      insertAll (m.map fun e => (e.1, f e.2)) (es.map fun e => (e.1, f e.2)) from hall []
  induction es with
  | nil => exact fun m => rfl
  | cons e es ih =>
    intro m
    have hinsert := ih (insert e.1 e.2 m)
    rwa [map_insert] at hinsert

end TextTemplate.Entries
