import TextTemplate.Proofs.Embedded.Table
import TextTemplate.Proofs.Entries
set_option autoImplicit false

/-!
# Returned: the value of a table

Which value the entries of a table make up does not depend on the order in which they are met, nor
on the border that counts as the length of the table.  If their keys are the indices from one up to
some number, it is the list of their values by index (`assemble_list`); otherwise, and if no two
keys have one text, it is the map of their values by the texts of their keys (`assemble_map`).
-/

namespace TextTemplate.Embedded

open Table (keys IsBorder IsSequence sequenceIndex? sequenceIndex?_eq_some_iff)

variable {ω : Type} {es : List (Key × Value ω)} {k : Key} {n : Nat}

namespace Key

/-- The text of a key, if it has one. -/
def text (k : Key) : String :=
  match k.name with
  | .ok s => s
  | .error _ => ""

/-- The key has a text. -/
def Named (k : Key) : Prop := k.name = .ok k.text

theorem named_int (i : Int64) : Named (.int i) := rfl

theorem text_int (i : Int64) : text (.int i) = toString i.toInt := rfl

theorem name_ofString (s : String) : name (.ofString s) = .ok s := by
  simp only [name, ofString, decodeText, Bytes.toString?_ofString]

theorem text_ofString (s : String) : text (.ofString s) = s := by
  rw [text, name_ofString]

theorem ofString_injective {s s' : String} (h : ofString s = ofString s') : s = s' := by
  rw [← text_ofString s, h, text_ofString]

theorem named_ofString (s : String) : Named (.ofString s) := by
  rw [Named, text_ofString, name_ofString]

/-- Where the entry under a key with a text goes, in a table of length `length`. -/
def place (length : Nat) (k : Key) : Slot :=
  match sequenceIndex? length k with
  | some i => .index i
  | none => .name k.text

theorem Named.slot_eq (h : k.Named) : k.slot n = .ok (k.place n) := by
  unfold slot place
  cases sequenceIndex? n k with
  | some i => rfl
  | none => rw [h]; rfl

end Key

/-- The entries in the sequence up to a length, by index. -/
def indexed (length : Nat) (es : List (Key × Value ω)) : List (Int × Value ω) :=
  es.filterMap fun e => (sequenceIndex? length e.1).map (·, e.2)

/-- The other entries, by the texts of their keys. -/
def named (length : Nat) (es : List (Key × Value ω)) : List (String × Value ω) :=
  (es.filter fun e => (sequenceIndex? length e.1).isNone).map fun e => (e.1.text, e.2)

theorem filterMap_place {β : Type} {f : Slot × Value ω → Option β} {g : Key × Value ω → Option β}
    (h : ∀ e, f (e.1.place n, e.2) = g e) (es : List (Key × Value ω)) :
    (es.map fun e => (e.1.place n, e.2)).filterMap f = es.filterMap g := by
  rw [List.filterMap_map]
  exact List.filterMap_congr fun e _ => h e

theorem named_eq_filterMap (n : Nat) (es : List (Key × Value ω)) :
    named n es = es.filterMap fun e =>
      if (sequenceIndex? n e.1).isNone then some (e.1.text, e.2) else none := by
  rw [named, ← List.filterMap_eq_map, ← List.filterMap_eq_filter, List.filterMap_filterMap]
  refine List.filterMap_congr fun e _ => ?_
  cases h : sequenceIndex? n e.1 <;> simp [Option.guard, h]

/-- What the entries of a table go into. -/
theorem assemble_place (n : Nat) (es : List (Key × Value ω)) :
    assemble n (es.map fun e => (e.1.place n, e.2)) =
      let sequence := Entries.ofList (indexed n es)
      let named := Entries.ofList (named n es)
      if named.isEmpty ∧ 0 < n ∧ sequence.length = n then .list (sequence.map (·.2))
      else .map (Entries.insertAll named (sequence.map fun e => (toString e.1, e.2))) := by
  let index (e : Key × Value ω) : Option (Int × Value ω) := (sequenceIndex? n e.1).map (·, e.2)
  let name (e : Key × Value ω) : Option (String × Value ω) :=
    if (sequenceIndex? n e.1).isNone then some (e.1.text, e.2) else none
  rw [named_eq_filterMap, indexed, assemble, filterMap_place (g := index) ?_,
    filterMap_place (g := name) ?_]
  all_goals
    intro e
    simp only [index, name, Key.place]
    cases sequenceIndex? n e.1 <;> rfl

/-- The indices in sequence differ. -/
theorem nodup_indexed (h : (keys es).Nodup) : (Entries.keys (indexed n es)).Nodup := by
  rw [Entries.keys, List.nodup_iff_pairwise_ne, List.pairwise_map, indexed, List.pairwise_filterMap]
  refine (List.pairwise_map.1 h).imp ?_
  intro e e' hne a ha b hb heq
  obtain ⟨i, hi, rfl⟩ := Option.map_eq_some_iff.1 ha
  obtain ⟨j, hj, rfl⟩ := Option.map_eq_some_iff.1 hb
  obtain ⟨x, hx, rfl, -, -⟩ := sequenceIndex?_eq_some_iff.1 hi
  obtain ⟨y, hy, rfl, -, -⟩ := sequenceIndex?_eq_some_iff.1 hj
  exact hne (by rw [hx, hy, Int64.toInt_inj.1 heq])

theorem named_eq_nil_iff : named n es = [] ↔ ∀ k ∈ keys es, (sequenceIndex? n k).isSome := by
  rw [named, List.map_eq_nil_iff, List.filter_eq_nil_iff, keys, List.forall_mem_map]
  refine forall₂_congr fun e _ => ?_
  rw [← Option.not_isSome, Bool.not_eq_true', Bool.not_eq_false]

/-- Enough indices in sequence, and no other keys, are a sequence. -/
theorem isSequence_of_indexed (h : (keys es).Nodup) (hpos : 0 < n) (hnamed : named n es = [])
    (hlength : (indexed n es).length = n) : IsSequence (keys es) n := by
  refine ⟨hpos, named_eq_nil_iff.1 hnamed, fun i hi hle => ?_⟩
  have hsubset : Entries.keys (indexed n es) ⊆ (List.range n).map fun j : Nat => (j : Int) + 1 := by
    intro j hj
    obtain ⟨e, he, rfl⟩ := List.mem_map.1 hj
    obtain ⟨e', -, he'⟩ := List.mem_filterMap.1 he
    obtain ⟨j, hindex, rfl⟩ := Option.map_eq_some_iff.1 he'
    obtain ⟨_, -, -, hone, hle⟩ := sequenceIndex?_eq_some_iff.1 hindex
    exact List.mem_map.2 ⟨(j - 1).toNat, List.mem_range.2 (by omega), by omega⟩
  -- Different indices from one up to `n` that are `n` many are all of them.
  have hperm : (Entries.keys (indexed n es)).Perm
      ((List.range n).map fun j : Nat => (j : Int) + 1) := by
    refine ((nodup_indexed h).subperm hsubset).perm_of_length_le (Nat.le_of_eq ?_)
    rw [List.length_map, List.length_range, Entries.keys, List.length_map, hlength]
  have hmem : i ∈ Entries.keys (indexed n es) :=
    hperm.mem_iff.2 (List.mem_map.2 ⟨(i - 1).toNat, List.mem_range.2 (by omega), by omega⟩)
  obtain ⟨e, he, rfl⟩ := List.mem_map.1 hmem
  obtain ⟨e', hmem', he'⟩ := List.mem_filterMap.1 he
  obtain ⟨j, hindex, rfl⟩ := Option.map_eq_some_iff.1 he'
  obtain ⟨x, hx, hj, -, -⟩ := sequenceIndex?_eq_some_iff.1 hindex
  exact ⟨x, hj, hx ▸ List.mem_map_of_mem hmem'⟩

/-! ## Lists -/

/-- Values at the indices from one on. -/
def sequenceOf {α : Type} (vs : List α) : List (Key × α) :=
  vs.mapIdx fun i v => (Key.int (Int64.ofNat (i + 1)), v)

theorem mem_sequenceOf {α : Type} {vs : List α} {e : Key × α} :
    e ∈ sequenceOf vs ↔
      ∃ i, ∃ h : i < vs.length, (Key.int (Int64.ofNat (i + 1)), vs[i]) = e :=
  List.mem_mapIdx

theorem length_sequenceOf {α : Type} (vs : List α) : (sequenceOf vs).length = vs.length :=
  List.length_mapIdx

theorem nodup_sequenceOf {α : Type} {vs : List α} (hsize : vs.length < 9223372036854775808) :
    (keys (sequenceOf vs)).Nodup := by
  refine List.pairwise_map.2 (List.pairwise_iff_getElem.2 fun i j hi hj hlt heq => ?_)
  rw [length_sequenceOf] at hi hj
  simp only [sequenceOf, List.getElem_mapIdx, Key.int.injEq] at heq
  have htoInt := Table.toInt_ofNat (n := i + 1) (by omega)
  rw [heq, Table.toInt_ofNat (n := j + 1) (by omega)] at htoInt
  omega

theorem isSequence_sequenceOf {vs : List (Value ω)} (hne : vs ≠ [])
    (hsize : vs.length < 9223372036854775808) :
    IsSequence (keys (sequenceOf vs)) vs.length := by
  refine ⟨List.length_pos_iff.2 hne, ?_, ?_⟩
  · refine List.forall_mem_map.2 fun e he => ?_
    obtain ⟨i, hi, rfl⟩ := mem_sequenceOf.1 he
    have htoInt := Table.toInt_ofNat (n := i + 1) (by omega)
    refine Option.isSome_iff_exists.2 ⟨_, sequenceIndex?_eq_some_iff.2 ⟨_, rfl, htoInt, ?_, ?_⟩⟩
    · omega
    · omega
  · intro i hi hle
    refine ⟨Int64.ofNat ((i - 1).toNat + 1), ?_, ?_⟩
    · rw [Table.toInt_ofNat (by omega)]
      omega
    · exact List.mem_map.2 ⟨_, mem_sequenceOf.2 ⟨(i - 1).toNat, by omega, rfl⟩, rfl⟩

theorem indexed_sequenceOf {vs : List (Value ω)} (hsize : vs.length < 9223372036854775808) :
    indexed vs.length (sequenceOf vs) = vs.mapIdx fun i v => ((i : Int) + 1, v) := by
  rw [indexed, sequenceOf, List.mapIdx_eq_zipIdx_map, List.filterMap_map,
    List.mapIdx_eq_zipIdx_map, ← List.filterMap_eq_map]
  refine List.filterMap_congr fun ⟨v, i⟩ hmem => ?_
  have hi : i < vs.length + 0 := List.snd_lt_of_mem_zipIdx hmem
  have htoInt := Table.toInt_ofNat (n := i + 1) (by omega)
  have hindex : sequenceIndex? vs.length (.int (Int64.ofNat (i + 1))) = some ((i : Int) + 1) :=
    sequenceIndex?_eq_some_iff.2 ⟨_, rfl, htoInt, by omega, by omega⟩
  exact congrArg (Option.map (·, v)) hindex

theorem ordered_mapIdx (vs : List (Value ω)) :
    Entries.Ordered (vs.mapIdx fun i v => ((i : Int) + 1, v)) := by
  refine List.pairwise_map.2 (List.pairwise_iff_getElem.2 fun i j hi hj hlt => ?_)
  rw [List.getElem_mapIdx, List.getElem_mapIdx]
  show (i : Int) + 1 < (j : Int) + 1
  omega

/-- Entries that are values at the indices from one on make up the list of these values. -/
theorem assemble_list {vs : List (Value ω)} (hperm : es.Perm (sequenceOf vs)) (hne : vs ≠ [])
    (hsize : vs.length < 9223372036854775808) (hborder : IsBorder (keys es) n) :
    assemble n (es.map fun e => (e.1.place n, e.2)) = .list vs := by
  have hkeys : (keys es).Perm (keys (sequenceOf vs)) := hperm.map _
  have hsequence : IsSequence (keys es) vs.length :=
    (isSequence_sequenceOf hne hsize).of_mem_iff fun k => hkeys.mem_iff
  obtain rfl : n = vs.length := hsequence.border_eq hborder
  have hnamed : named vs.length es = [] := named_eq_nil_iff.2 hsequence.index
  have hindexed : (indexed vs.length es).Perm (vs.mapIdx fun i v => ((i : Int) + 1, v)) :=
    indexed_sequenceOf hsize ▸ hperm.filterMap _
  have hnodup := Entries.ordered_nodup (ordered_mapIdx vs)
  have hmap : Entries.ofList (indexed vs.length es) = vs.mapIdx fun i v => ((i : Int) + 1, v) :=
    (Entries.ofList_eq_of_perm ((hindexed.map _).nodup_iff.2 hnodup) hindexed).trans
      (Entries.ofList_eq_self (ordered_mapIdx vs))
  have hvalues : (vs.mapIdx fun i v => ((i : Int) + 1, v)).map (·.2) = vs :=
    List.ext_getElem (by simp) fun i hi hi' => by simp
  rw [assemble_place]
  simp only [hnamed, hmap, hvalues, List.length_mapIdx]
  exact if_pos ⟨rfl, List.length_pos_iff.2 hne, trivial⟩

/-! ## Maps -/

/-- The indices as texts are the texts of the keys. -/
theorem map_indexed (n : Nat) (es : List (Key × Value ω)) :
    (indexed n es).map (fun e => (toString e.1, e.2)) =
      (es.filter fun e => (sequenceIndex? n e.1).isSome).map fun e => (e.1.text, e.2) := by
  rw [indexed, List.map_filterMap, ← List.filterMap_eq_map, ← List.filterMap_eq_filter,
    List.filterMap_filterMap]
  refine List.filterMap_congr fun ⟨k, v⟩ _ => ?_
  cases h : sequenceIndex? n k with
  | none => simp [Option.guard, h]
  | some i =>
    obtain ⟨j, rfl, rfl, -, -⟩ := sequenceIndex?_eq_some_iff.1 h
    simp [Option.guard, h, Key.text_int]

/-- The entries in sequence and the others are all entries. -/
theorem named_append_indexed_perm (n : Nat) (es : List (Key × Value ω)) :
    (named n es ++ (indexed n es).map fun e => (toString e.1, e.2)).Perm
      (es.map fun e => (e.1.text, e.2)) := by
  rw [map_indexed, named, ← List.map_append]
  have hothers : (fun e : Key × Value ω => (sequenceIndex? n e.1).isSome) =
      fun e => !(sequenceIndex? n e.1).isNone := by
    funext e
    exact (Option.not_isNone _).symm
  rw [hothers]
  exact (List.filter_append_perm _ es).map _

theorem keys_map_text (es : List (Key × Value ω)) :
    Entries.keys (es.map fun e => (e.1.text, e.2)) = (keys es).map Key.text := by
  simp [Entries.keys, keys]

/-- Entries whose keys have different texts and are no sequence make up the map of their values by
these texts. -/
theorem assemble_map (h : ((keys es).map Key.text).Nodup) (hnot : ¬ IsSequence (keys es) n) :
    assemble n (es.map fun e => (e.1.place n, e.2)) =
      .ofEntries (es.map fun e => (e.1.text, e.2)) := by
  have hkeys : (keys es).Nodup := List.Nodup.of_map _ h
  have htexts : (Entries.keys (es.map fun e => (e.1.text, e.2))).Nodup := by
    rwa [keys_map_text]
  have hall := named_append_indexed_perm n es
  have hnames : (Entries.keys (named n es)).Nodup := by
    have happend := (hall.map Prod.fst).nodup_iff.2 htexts
    rw [List.map_append] at happend
    exact (List.nodup_append.1 happend).1
  have hnamed := Entries.ofList_perm hnames
  have hindexed := Entries.ofList_perm (nodup_indexed (n := n) hkeys)
  have hentries : (Entries.ofList (named n es) ++
      (Entries.ofList (indexed n es)).map fun e => (toString e.1, e.2)).Perm
      (es.map fun e => (e.1.text, e.2)) :=
    (hnamed.append (hindexed.map _)).trans hall
  rw [assemble_place]
  simp only
  rw [if_neg, Value.ofEntries]
  · congr 1
    refine Entries.eq_of_perm (Entries.ordered_insertAll _ (Entries.ordered_ofList _))
      (Entries.ordered_ofList _) ?_
    refine (Entries.insertAll_perm ((hentries.map _).nodup_iff.2 htexts)).trans ?_
    exact hentries.trans (Entries.ofList_perm htexts).symm
  · rintro ⟨hempty, hpos, hlength⟩
    rw [List.isEmpty_iff.1 hempty] at hnamed
    exact hnot (isSequence_of_indexed hkeys hpos hnamed.nil_eq.symm (hindexed.length_eq ▸ hlength))

/-! ## Tables -/

section TableValue

variable {view : TableView} {heap : Heap} {depth id : Nat} {t : Table}

theorem slots_eq {item : Datum → Returning (Value ω)} {value : Datum → Value ω}
    {ps : List (Key × Datum)} (hnamed : ∀ e ∈ ps, e.1.Named)
    (hitem : ∀ e ∈ ps, item e.2 = pure (value e.2)) :
    slots item n ps = pure (ps.map fun e => (e.1.place n, value e.2)) := by
  induction ps with
  | nil => rfl
  | cons e ps ih =>
    obtain ⟨k, d⟩ := e
    obtain ⟨hkey, hnamed⟩ := List.forall_mem_cons.1 hnamed
    obtain ⟨hdatum, hitem⟩ := List.forall_mem_cons.1 hitem
    rw [slots, hdatum, pure_bind, Key.Named.slot_eq hkey, ih hnamed hitem]
    rfl

/-- The value of a table whose entries have values: what these go into, met in the order of the
view. -/
theorem exists_tableValue (hview : view.Lawful) (ht : heap.table id = t) (hsound : t.Sound)
    {value : Datum → Value ω} (hnamed : ∀ k ∈ keys t.entries, k.Named)
    (hitem : ∀ e ∈ t.entries, e.2.toValue view heap depth = pure (value e.2)) :
    ∃ es : List (Key × Value ω), es.Perm (t.entries.map fun e => (e.1, value e.2)) ∧
      IsBorder (keys es) (view.border t) ∧
      tableValue view heap (depth + 1) id =
        pure (assemble (view.border t) (es.map fun e => (e.1.place (view.border t), e.2))) := by
  have hpairs := hview.pairs t hsound
  have hkeys : ∀ k, k ∈ keys ((view.pairs t).map fun e => (e.1, value e.2)) ↔
      k ∈ keys t.entries := by
    intro k
    rw [keys, List.map_map]
    exact (hpairs.map Prod.fst).mem_iff
  refine ⟨(view.pairs t).map fun e => (e.1, value e.2), hpairs.map _, ?_, ?_⟩
  · exact (hview.border t hsound).of_mem_iff hkeys
  · have hnamed' : ∀ e ∈ view.pairs t, e.1.Named := fun e he =>
      hnamed e.1 (List.mem_map_of_mem (hpairs.mem_iff.1 he))
    have hitem' : ∀ e ∈ view.pairs t,
        e.2.toValueWith (tableValue view heap depth) = pure (value e.2) := fun e he =>
      hitem e (hpairs.mem_iff.1 he)
    rw [tableValue, ht, slots_eq hnamed' hitem', pure_bind, List.map_map]
    rfl

end TableValue

end TextTemplate.Embedded
