import TextTemplate.Embedded.Stored
import TextTemplate.Proofs.Embedded.Returned
import TextTemplate.Proofs.Value.Normal
set_option autoImplicit false

/-!
# Stored: what comes back of a stored value

A stored value is read back from the tables that were made for it (`ReadAs`), in any heap that still
has these, and to any depth that they can be nested to.  What comes back of a list or map is what is
left of it when its items have come back (`ReadAs.list`, `ReadAs.map`).
-/

namespace TextTemplate.Embedded

open Table (keys HasIndex IsSequence sequenceIndex? sequenceIndex?_eq_some_iff)
open Value (Detached leading trailing numbered present ofItems)

variable {ω : Type}

/-! ## Heaps -/

namespace Heap

variable {h h' h'' : Heap} {lo : Nat}

/-- `h'` has the tables of `h` and perhaps more. -/
structure Extends (h h' : Heap) : Prop where
  size_le : h.size ≤ h'.size
  table_eq : ∀ id < h.size, h'.table id = h.table id

/-- `h'` has the tables that `h` has from number `lo` on. -/
def Keeps (lo : Nat) (h h' : Heap) : Prop :=
  ∀ id, lo ≤ id → id < h.size → h'.table id = h.table id

namespace Extends

theorem refl (h : Heap) : h.Extends h := ⟨Nat.le_refl _, fun _ _ => rfl⟩

theorem trans (first : h.Extends h') (second : h'.Extends h'') : h.Extends h'' := by
  refine ⟨Nat.le_trans first.size_le second.size_le, fun id hid => ?_⟩
  have hid' : id < h'.size := Nat.lt_of_lt_of_le hid first.size_le
  rw [second.table_eq id hid', first.table_eq id hid]

/-- What keeps the tables of a heap keeps those of a heap that it extends. -/
theorem keeps (first : h.Extends h') {H : Heap} (hkeeps : Keeps lo h' H) : Keeps lo h H := by
  intro id hlo hid
  rw [hkeeps id hlo (Nat.lt_of_lt_of_le hid first.size_le), first.table_eq id hid]

theorem push (h : Heap) (t : Table) : h.Extends (h.push t).2 := by
  refine ⟨by simp [Heap.push], fun id hid => ?_⟩
  simp [Heap.table, Heap.push, Array.getElem?_push, Nat.ne_of_lt hid]

end Extends

theorem Keeps.mono {hi : Nat} {H : Heap} (hkeeps : Keeps lo h H) (hle : lo ≤ hi) :
    Keeps hi h H :=
  fun id hid => hkeeps id (Nat.le_trans hle hid)

theorem table_push (h : Heap) (t : Table) : (h.push t).2.table h.size = t := by
  simp [Heap.table, Heap.push]

theorem size_push (h : Heap) (t : Table) : (h.push t).2.size = h.size + 1 := by
  simp [Heap.push]

end Heap

/-! ## Read data -/

/-- A datum has a value in a heap, and is nothing only if the value is absent. -/
structure Reads (view : TableView) (heap : Heap) (depth : Nat) (d : Datum) (w : Value ω) :
    Prop where
  isNil : d.isNil = w.isNull
  value : d.toValue view heap depth = pure w

/-- What comes back of a stored value: it has tables of its own, and reads as `w` wherever these are
kept. -/
structure ReadAs (view : TableView) (v : Detached) (w : Value ω) : Prop where
  grows : ∀ h : Heap, h.Extends (store v h).2
  reads : ∀ (h H : Heap) (depth : Nat), Heap.Keeps h.size (store v h).2 H →
    (store v h).2.size ≤ h.size + depth → Reads view H depth (store v h).1 w

section Reading

variable {view : TableView} {heap : Heap} {depth : Nat}

/-- The value of a datum, if it has one. -/
def readValue (view : TableView) (heap : Heap) (depth : Nat) (d : Datum) : Value ω :=
  match d.toValue view heap depth with
  | some (.ok w) => w
  | _ => .null

theorem Reads.readValue_eq {d : Datum} {w : Value ω} (h : Reads view heap depth d w) :
    readValue view heap depth d = w := by
  rw [readValue, h.value]
  rfl

theorem Reads.self {d : Datum} {w : Value ω} (h : Reads view heap depth d w) :
    Reads view heap depth d (readValue (ω := ω) view heap depth d) := by
  rwa [h.readValue_eq]

variable {ds : List Datum} {ws : List (Value ω)}

theorem map_readValue (h : List.Forall₂ (Reads view heap depth) ds ws) :
    ds.map (readValue view heap depth) = ws := by
  induction h with
  | nil => rfl
  | cons first others ih => rw [List.map_cons, first.readValue_eq, ih]

theorem forall_reads (h : List.Forall₂ (Reads view heap depth) ds ws) :
    ∀ d ∈ ds, Reads view heap depth d (readValue (ω := ω) view heap depth d) := by
  induction h with
  | nil => exact fun d hd => absurd hd List.not_mem_nil
  | cons first others ih => exact List.forall_mem_cons.2 ⟨first.self, ih⟩

end Reading

/-! ## Scalars -/

namespace ReadAs

variable {view : TableView}

theorem null : ReadAs (ω := ω) view .null .null :=
  ⟨.refl, fun _ _ _ _ _ => ⟨rfl, rfl⟩⟩

theorem bool (b : Bool) : ReadAs (ω := ω) view (.bool b) (.bool b) :=
  ⟨.refl, fun _ _ _ _ _ => ⟨rfl, rfl⟩⟩

theorem int (i : Int64) : ReadAs (ω := ω) view (.int i) (.int i) :=
  ⟨.refl, fun _ _ _ _ _ => ⟨rfl, rfl⟩⟩

theorem float (x : Float) : ReadAs (ω := ω) view (.float x) (.float x) :=
  ⟨.refl, fun _ _ _ _ _ => ⟨rfl, rfl⟩⟩

theorem str (s : String) : ReadAs (ω := ω) view (.str s) (.str s) := by
  refine ⟨.refl, fun h H depth _ _ => ⟨rfl, ?_⟩⟩
  simp only [store, Datum.ofString, Datum.toValue, Datum.toValueWith, decodeText,
    Bytes.toString?_ofString]

end ReadAs

/-! ## Items -/

section Items

variable {view : TableView} {item : Value ω → Detached} {norm : Value ω → Value ω}
  {items : List (Value ω)}

theorem storeItems_extends (h : ∀ v ∈ items, ReadAs view (item v) (norm v)) (heap : Heap) :
    heap.Extends (storeItems (items.map item) heap).2 := by
  induction items generalizing heap with
  | nil => exact .refl heap
  | cons v items ih =>
    obtain ⟨hv, hitems⟩ := List.forall_mem_cons.1 h
    exact (hv.grows heap).trans (ih hitems _)

/-- Stored items read as what comes back of each. -/
theorem storeItems_reads (h : ∀ v ∈ items, ReadAs view (item v) (norm v)) {heap H : Heap}
    {depth : Nat} (hkeeps : Heap.Keeps heap.size (storeItems (items.map item) heap).2 H)
    (hdepth : (storeItems (items.map item) heap).2.size ≤ heap.size + depth) :
    List.Forall₂ (Reads view H depth) (storeItems (items.map item) heap).1 (items.map norm) := by
  induction items generalizing heap with
  | nil => exact .nil
  | cons v items ih =>
    obtain ⟨hv, hitems⟩ := List.forall_mem_cons.1 h
    have hfirst := hv.grows heap
    have hothers := storeItems_extends hitems (store (item v) heap).2
    refine .cons (hv.reads heap H depth (hothers.keeps hkeeps) ?_) (ih hitems ?_ ?_)
    · exact Nat.le_trans hothers.size_le hdepth
    · exact Heap.Keeps.mono hkeeps hfirst.size_le
    · exact Nat.le_trans hdepth (Nat.add_le_add_right hfirst.size_le depth)

theorem storeEntries_eq (es : List (String × Detached)) (heap : Heap) :
    storeEntries es heap =
      ((es.map (·.1)).zip (storeItems (es.map (·.2)) heap).1,
        (storeItems (es.map (·.2)) heap).2) := by
  induction es generalizing heap with
  | nil => rfl
  | cons e es ih =>
    obtain ⟨k, v⟩ := e
    simp only [storeEntries, ih, List.map_cons, storeItems, List.zip_cons_cons]

end Items

/-! ## Tables -/

section Tables

variable {view : TableView} {heap : Heap} {depth id : Nat} {es : List (Key × Datum)}

/-- The entries of a stored table that come back, with their values. -/
def returned (ω : Type) (view : TableView) (heap : Heap) (depth : Nat) (es : List (Key × Datum)) :
    List (Key × Value ω) :=
  present (es.map fun e => (e.1, readValue view heap depth e.2))

/-- What can be read of a table that was made of entries with different keys. -/
structure Readable (ω : Type) (view : TableView) (heap : Heap) (depth id : Nat)
    (es : List (Key × Datum)) : Prop where
  table : heap.table id = Table.ofEntries es
  nodup : (keys es).Nodup
  size : es.length < 9223372036854775808
  named : ∀ k ∈ keys es, k.Named
  reads : ∀ e ∈ es, Reads view heap depth e.2 (readValue (ω := ω) view heap depth e.2)

namespace Readable

theorem sound (h : Readable ω view heap depth id es) : (Table.ofEntries es).Sound := by
  have hentries := Table.entries_ofEntries h.nodup
  refine ⟨?_, ?_⟩
  · rw [hentries]
    exact h.nodup.sublist (List.filter_sublist.map _)
  · rw [hentries]
    exact Nat.lt_of_le_of_lt (List.length_filter_le _ _) h.size

theorem returned_eq (h : Readable ω view heap depth id es) :
    (Table.ofEntries es).entries.map (fun e => (e.1, readValue view heap depth e.2)) =
      returned ω view heap depth es := by
  rw [Table.entries_ofEntries h.nodup, returned, present, List.filter_map]
  congr 1
  refine List.filter_congr fun e he => ?_
  rw [Function.comp_apply, (h.reads e he).isNil]

/-- The value of the table: what the entries that come back go into. -/
theorem exists_tableValue (h : Readable ω view heap depth id es) (hview : view.Lawful) :
    ∃ (n : Nat) (rs : List (Key × Value ω)), rs.Perm (returned ω view heap depth es) ∧
      Table.IsBorder (keys rs) n ∧
      tableValue view heap (depth + 1) id =
        pure (assemble n (rs.map fun e => (e.1.place n, e.2))) := by
  have hsub : ∀ e ∈ (Table.ofEntries es).entries, e ∈ es := by
    rw [Table.entries_ofEntries h.nodup]
    exact fun e he => (List.mem_filter.1 he).1
  have hnamed : ∀ k ∈ keys (Table.ofEntries es).entries, k.Named :=
    List.forall_mem_map.2 fun e he => h.named e.1 (List.mem_map_of_mem (hsub e he))
  obtain ⟨rs, hperm, hborder, hvalue⟩ := Embedded.exists_tableValue (ω := ω) hview h.table h.sound
    hnamed fun e he => (h.reads e (hsub e he)).value
  rw [h.returned_eq] at hperm
  exact ⟨_, rs, hperm, hborder, hvalue⟩

/-- If a list comes back, it is the value of the table. -/
theorem tableValue_list (h : Readable ω view heap depth id es) (hview : view.Lawful)
    {vs : List (Value ω)} (hreturned : returned ω view heap depth es = sequenceOf vs)
    (hne : vs ≠ []) (hsize : vs.length < 9223372036854775808) :
    tableValue view heap (depth + 1) id = pure (.list vs) := by
  obtain ⟨n, rs, hperm, hborder, hvalue⟩ := h.exists_tableValue hview
  rw [hvalue, assemble_list (hreturned ▸ hperm) hne hsize hborder]

/-- If no list comes back, the value of the table is a map. -/
theorem tableValue_map (h : Readable ω view heap depth id es) (hview : view.Lawful)
    (htexts : ((keys (returned ω view heap depth es)).map Key.text).Nodup)
    (hnot : ∀ n, ¬ IsSequence (keys (returned ω view heap depth es)) n) :
    tableValue view heap (depth + 1) id =
      pure (.ofEntries ((returned ω view heap depth es).map fun e => (e.1.text, e.2))) := by
  obtain ⟨n, rs, hperm, hborder, hvalue⟩ := h.exists_tableValue hview
  have hkeys : (keys rs).Perm (keys (returned ω view heap depth es)) := hperm.map _
  have hnodup : ((keys rs).map Key.text).Nodup := (hkeys.map _).nodup_iff.2 htexts
  rw [hvalue, assemble_map hnodup fun hsequence =>
    hnot n (hsequence.of_mem_iff fun k => hkeys.mem_iff.symm)]
  have hnodup' : (Entries.keys (rs.map fun e => (e.1.text, e.2))).Nodup := by
    rwa [keys_map_text]
  rw [Value.ofEntries, Value.ofEntries, Entries.ofList_eq_of_perm hnodup' (hperm.map _)]

end Readable

end Tables

/-! ## Lists -/

section Lists

variable {ws : List (Value ω)}

theorem toString_injective {m n : Nat} (h : toString m = toString n) : m = n := by
  have hdigits : Nat.toDigits 10 m = Nat.toDigits 10 n := String.ofList_injective h
  rw [← Nat.ofDigitChars_ten_toDigits (n := m), hdigits, Nat.ofDigitChars_ten_toDigits]

theorem nodup_numbered (ws : List (Value ω)) : (Entries.keys (numbered ws)).Nodup := by
  refine List.pairwise_map.2 (List.pairwise_iff_getElem.2 fun i j hi hj hlt heq => ?_)
  simp only [numbered, List.getElem_mapIdx] at heq
  have hij := toString_injective heq
  omega

/-- The present items under the texts of their indices. -/
theorem map_text_present_sequenceOf (hsize : ws.length < 9223372036854775808) :
    (present (sequenceOf ws)).map (fun e => (e.1.text, e.2)) = present (numbered ws) := by
  have hall : (sequenceOf ws).map (fun e => (e.1.text, e.2)) = numbered ws := by
    refine List.ext_getElem (by simp [sequenceOf, numbered]) fun i hi hi' => ?_
    have hlt : i + 1 < 9223372036854775808 := by
      rw [numbered, List.length_mapIdx] at hi'
      omega
    simp only [sequenceOf, numbered, List.getElem_map, List.getElem_mapIdx, Key.text_int]
    rw [Table.toInt_ofNat hlt]
    rfl
  rw [← hall, present, present, List.filter_map]
  rfl

theorem nodup_text_present_sequenceOf (hsize : ws.length < 9223372036854775808) :
    ((keys (present (sequenceOf ws))).map Key.text).Nodup := by
  rw [← keys_map_text, map_text_present_sequenceOf hsize]
  exact (nodup_numbered ws).sublist (List.filter_sublist.map _)

/-- If no item is present behind the first absent one, the present items are a sequence. -/
theorem present_sequenceOf_eq (h : (trailing ws).all Value.isNull) :
    present (sequenceOf ws) = sequenceOf (leading ws) := by
  have hleading : present (sequenceOf (leading ws)) = sequenceOf (leading ws) := by
    refine Value.present_eq_self fun e he => ?_
    obtain ⟨i, hi, rfl⟩ := mem_sequenceOf.1 he
    exact Value.isNull_of_mem_leading (List.getElem_mem hi)
  have hsplit := Value.leading_append_trailing ws
  conv_lhs => rw [← hsplit, sequenceOf, List.mapIdx_append, present, List.filter_append]
  refine (congrArg₂ _ hleading (List.filter_eq_nil_iff.2 fun e he => ?_)).trans
    (List.append_nil _)
  obtain ⟨i, hi, rfl⟩ := List.mem_mapIdx.1 he
  simp [List.all_eq_true.1 h _ (List.getElem_mem hi)]

/-- An index is there if its item is present. -/
theorem hasIndex_present_sequenceOf_iff (hsize : ws.length < 9223372036854775808) {i : Nat} :
    HasIndex (keys (present (sequenceOf ws))) ((i : Int) + 1) ↔
      ∃ w, ws[i]? = some w ∧ w.isNull = false := by
  constructor
  · rintro ⟨x, hx, hmem⟩
    obtain ⟨e, he, hkey⟩ := List.mem_map.1 hmem
    obtain ⟨he, hpresent⟩ := Value.mem_present.1 he
    obtain ⟨j, hj, rfl⟩ := mem_sequenceOf.1 he
    have hindex := Table.toInt_ofNat (n := j + 1) (by omega)
    rw [Key.int.inj hkey, hx] at hindex
    obtain rfl : i = j := by omega
    exact ⟨ws[i], List.getElem?_eq_getElem hj, hpresent⟩
  · rintro ⟨w, hw, hpresent⟩
    obtain ⟨hi, rfl⟩ := List.getElem?_eq_some_iff.1 hw
    refine ⟨Int64.ofNat (i + 1), Table.toInt_ofNat (by omega), ?_⟩
    exact List.mem_map.2 ⟨_, Value.mem_present.2 ⟨mem_sequenceOf.2 ⟨i, hi, rfl⟩, hpresent⟩, rfl⟩

/-- Present items that are a sequence stand before all absent ones. -/
theorem leading_of_isSequence (hsize : ws.length < 9223372036854775808) {n : Nat}
    (h : IsSequence (keys (present (sequenceOf ws))) n) :
    leading ws ≠ [] ∧ (trailing ws).all Value.isNull := by
  have hpos := h.pos
  refine ⟨fun hnil => ?_, ?_⟩
  · obtain ⟨w, hw, hpresent⟩ := (hasIndex_present_sequenceOf_iff hsize).1
      (h.present (((0 : Nat) : Int) + 1) (by omega) (by omega))
    cases ws with
    | nil => cases hw
    | cons v ws =>
      obtain rfl : v = w := Option.some.inj hw
      simp [leading, hpresent] at hnil
  · cases htrailing : trailing ws with
    | nil => rfl
    | cons v rest =>
      -- The first absent item has no index, so no index beyond it is there either.
      have hv : v.isNull = true := Value.isNull_of_trailing_eq htrailing
      have hfirst : ws[(leading ws).length]? = some v := by
        have hget := Value.getElem?_leading_add ws 0
        rwa [htrailing] at hget
      refine List.all_eq_true.2 fun w hw => ?_
      by_contra hpresent
      obtain ⟨q, hq⟩ := List.mem_iff_getElem?.1 hw
      have hlater : ws[(leading ws).length + q]? = some w := by
        rw [Value.getElem?_leading_add, htrailing, hq]
      have hindex := (hasIndex_present_sequenceOf_iff hsize).2
        ⟨w, hlater, Bool.eq_false_iff.2 hpresent⟩
      have hle := h.le_of_hasIndex hindex
      obtain ⟨w', hw', hpresent'⟩ := (hasIndex_present_sequenceOf_iff hsize).1
        (h.present (((leading ws).length : Int) + 1) (by omega) (by omega))
      rw [hfirst] at hw'
      rw [← Option.some.inj hw', hv] at hpresent'
      cases hpresent'

end Lists

/-! ## Maps -/

section Maps

variable {α : Type} {names : List String}

/-- Values under names. -/
def namesOf (names : List String) (vs : List α) : List (Key × α) :=
  (names.zip vs).map fun e => (Key.ofString e.1, e.2)

theorem mem_namesOf {vs : List α} {e : Key × α} (h : e ∈ namesOf names vs) :
    ∃ name, e.1 = Key.ofString name ∧ e.2 ∈ vs := by
  obtain ⟨⟨name, v⟩, hmem, rfl⟩ := List.mem_map.1 h
  exact ⟨name, rfl, (List.of_mem_zip hmem).2⟩

theorem nodup_namesOf (hnames : names.Nodup) {vs : List α} (hlength : names.length ≤ vs.length) :
    (keys (namesOf names vs)).Nodup := by
  have hzip : ((names.zip vs).map Prod.fst).Nodup := by
    rwa [List.map_fst_zip hlength]
  refine List.pairwise_map.2 (List.pairwise_map.2 ((List.pairwise_map.1 hzip).imp ?_))
  intro e e' hne heq
  exact hne (Key.ofString_injective heq)

theorem map_text_present_namesOf (ws : List (Value ω)) :
    (present (namesOf names ws)).map (fun e => (e.1.text, e.2)) = present (names.zip ws) := by
  have hall : (namesOf names ws).map (fun e => (e.1.text, e.2)) = names.zip ws := by
    rw [namesOf, List.map_map]
    refine (List.map_congr_left fun e _ => ?_).trans (List.map_id _)
    rw [Function.comp_apply, Key.text_ofString]
    rfl
  rw [← hall, present, present, List.filter_map]
  rfl

/-- Names are no indices. -/
theorem not_isSequence_namesOf (ws : List (Value ω)) (n : Nat) :
    ¬ IsSequence (keys (present (namesOf names ws))) n := by
  intro h
  obtain ⟨x, -, hmem⟩ := h.present 1 (Int.le_refl 1) (by have := h.pos; omega)
  obtain ⟨e, he, hkey⟩ := List.mem_map.1 hmem
  obtain ⟨name, hname, -⟩ := mem_namesOf (Value.mem_present.1 he).1
  rw [hname] at hkey
  cases hkey

end Maps

namespace ReadAs

variable {view : TableView} {item : Value ω → Detached} {norm : Value ω → Value ω}
  {items : List (Value ω)} {v : Detached} {w : Value ω}

/-- What comes back of a value that is stored as a table of its items. -/
theorem of_table (h : ∀ v ∈ items, ReadAs view (item v) (norm v))
    (entries : List Datum → List (Key × Datum))
    (hstore : ∀ heap : Heap, store v heap =
      (storeItems (items.map item) heap).2.push
        (Table.ofEntries (entries (storeItems (items.map item) heap).1)))
    (hpresent : w.isNull = false)
    (hvalue : ∀ (H : Heap) (depth id : Nat) (ds : List Datum),
      List.Forall₂ (Reads view H depth) ds (items.map norm) →
      H.table id = Table.ofEntries (entries ds) → tableValue view H (depth + 1) id = pure w) :
    ReadAs view v w := by
  refine ⟨fun heap => ?_, fun heap H depth hkeeps hdepth => ?_⟩
  · rw [hstore]
    exact (storeItems_extends h heap).trans (.push _ _)
  · rw [hstore] at hkeeps hdepth ⊢
    have hgrows := storeItems_extends h heap
    have hsize := hgrows.size_le
    rw [Heap.size_push] at hdepth
    -- The new table takes one level of the depth, and leaves the others to the items.
    obtain ⟨depth, rfl⟩ : ∃ less, depth = less + 1 := ⟨depth - 1, by omega⟩
    have hitems := storeItems_reads h ((Heap.Extends.push _ _).keeps hkeeps)
      (show (storeItems (items.map item) heap).2.size ≤ heap.size + depth by omega)
    have htable := hkeeps _ hsize (by rw [Heap.size_push]; omega)
    rw [Heap.table_push] at htable
    exact ⟨hpresent.symm, hvalue H depth _ _ hitems htable⟩

/-- What comes back of a list, when it is known what comes back of its items. -/
theorem list (hview : view.Lawful) (hsize : items.length < 9223372036854775808)
    (h : ∀ v ∈ items, ReadAs view (item v) (norm v)) :
    ReadAs view (.list (items.map item)) (ofItems (items.map norm)) := by
  refine of_table h sequenceOf (fun heap => by rw [store]; rfl) (Value.isNull_ofItems _) ?_
  intro H depth id ds hds htable
  have hlength : ds.length = items.length := hds.length_eq.trans (List.length_map _)
  have hmap : (sequenceOf ds).map (fun e => (e.1, readValue view H depth e.2)) =
      sequenceOf (items.map norm) := by
    rw [← map_readValue hds]
    exact List.ext_getElem (by simp [sequenceOf]) fun i hi hi' => by simp [sequenceOf]
  have hsize' : (items.map norm).length < 9223372036854775808 := by rwa [List.length_map]
  have hreadable : Readable ω view H depth id (sequenceOf ds) := by
    refine ⟨htable, nodup_sequenceOf (hlength ▸ hsize), ?_, ?_, ?_⟩
    · rwa [length_sequenceOf, hlength]
    · refine List.forall_mem_map.2 fun e he => ?_
      obtain ⟨i, hi, rfl⟩ := mem_sequenceOf.1 he
      exact Key.named_int _
    · intro e he
      obtain ⟨i, hi, rfl⟩ := mem_sequenceOf.1 he
      exact forall_reads hds _ (List.getElem_mem hi)
  have hreturned : returned ω view H depth (sequenceOf ds) =
      present (sequenceOf (items.map norm)) := by
    rw [returned, hmap]
  unfold ofItems
  split
  · next hleading =>
    refine hreadable.tableValue_list hview ?_ hleading.1 ?_
    · rw [hreturned, present_sequenceOf_eq hleading.2]
    · exact Nat.lt_of_le_of_lt (Value.length_leading_le _) hsize'
  · next hleading =>
    rw [← map_text_present_sequenceOf hsize', ← hreturned]
    refine hreadable.tableValue_map hview ?_ ?_
    · rw [hreturned]
      exact nodup_text_present_sequenceOf hsize'
    · intro n hsequence
      rw [hreturned] at hsequence
      exact hleading (leading_of_isSequence hsize' hsequence)

/-- What comes back of a map, when it is known what comes back of its values. -/
theorem map (hview : view.Lawful) {es : List (String × Value ω)} (hes : (Entries.keys es).Nodup)
    (hsize : es.length < 9223372036854775808)
    (h : ∀ e ∈ es, ReadAs view (item e.2) (norm e.2)) :
    ReadAs view (.map (es.map fun e => (e.1, item e.2)))
      (.ofEntries (present (es.map fun e => (e.1, norm e.2)))) := by
  have hitems : ∀ v ∈ es.map (·.2), ReadAs view (item v) (norm v) := List.forall_mem_map.2 h
  refine of_table hitems (namesOf (Entries.keys es)) (fun heap => ?_) rfl ?_
  · rw [store, storeEntries_eq, List.map_map, List.map_map, List.map_map]
    rfl
  intro H depth id ds hds htable
  have hlength : ds.length = es.length := by
    rw [hds.length_eq, List.length_map, List.length_map]
  have hmap : (namesOf (Entries.keys es) ds).map (fun e => (e.1, readValue view H depth e.2)) =
      namesOf (Entries.keys es) ((es.map (·.2)).map norm) := by
    rw [← map_readValue hds, namesOf, namesOf, List.zip_map_right, List.map_map, List.map_map]
    rfl
  have hreadable : Readable ω view H depth id (namesOf (Entries.keys es) ds) := by
    refine ⟨htable, nodup_namesOf hes ?_, ?_, ?_, ?_⟩
    · rw [Entries.keys, List.length_map, hlength]
    · rw [namesOf, List.length_map, List.length_zip]
      omega
    · refine List.forall_mem_map.2 fun e he => ?_
      obtain ⟨name, hname, -⟩ := mem_namesOf he
      rw [hname]
      exact Key.named_ofString name
    · intro e he
      obtain ⟨name, -, hmem⟩ := mem_namesOf he
      exact forall_reads hds _ hmem
  have hreturned : returned ω view H depth (namesOf (Entries.keys es) ds) =
      present (namesOf (Entries.keys es) ((es.map (·.2)).map norm)) := by
    rw [returned, hmap]
  have hzip : (Entries.keys es).zip ((es.map (·.2)).map norm) =
      es.map fun e => (e.1, norm e.2) := by
    rw [Entries.keys, List.map_map, List.zip_map']
    rfl
  rw [← hzip, ← map_text_present_namesOf, ← hreturned]
  refine hreadable.tableValue_map hview ?_ ?_
  · rw [hreturned, ← keys_map_text, map_text_present_namesOf, hzip]
    have hkeys : Entries.keys (es.map fun e => (e.1, norm e.2)) = Entries.keys es := by
      rw [Entries.keys, List.map_map]
      rfl
    exact (hkeys ▸ hes).sublist (List.filter_sublist.map _)
  · intro n
    rw [hreturned]
    exact not_isSequence_namesOf _ n

end ReadAs

end TextTemplate.Embedded
