import Mathlib.Data.List.TakeWhile
import Mathlib.Tactic.Choose
import TextTemplate.Host
import TextTemplate.Proofs.Entries
set_option autoImplicit false

/-!
# Normal: what is left of a value without absent parts and objects

Tables of scripts hold nothing absent and know no objects.  `Normal host v w` says that `w` is what
is left of `v` when it has gone through such tables: absent entries are gone, a list with an absent
item before a present one is the map from the positions of its present items, and an object is its
text or the map of its fields.  What is left is left again (`Normal.idem`), and what has neither
absent parts nor empty lists nor objects is left as it is (`Normal.eq_of_plain`).
-/

namespace TextTemplate.Value

variable {ω : Type} {host : Host ω}

/-- The entries whose value is present. -/
def present {κ : Type} (es : List (κ × Value ω)) : List (κ × Value ω) := es.filter (!·.2.isNull)

/-- Items under their positions, from one on. -/
def numbered (items : List (Value ω)) : List (String × Value ω) :=
  items.mapIdx fun i v => (toString (i + 1), v)

/-- The items before the first absent one. -/
def leading (items : List (Value ω)) : List (Value ω) := items.takeWhile (!·.isNull)

/-- The items from the first absent one on. -/
def trailing (items : List (Value ω)) : List (Value ω) := items.dropWhile (!·.isNull)

/-- What is left of a list: the list of its present items, if there are any and no absent one comes
before them; otherwise the map from their positions. -/
def ofItems (items : List (Value ω)) : Value ω :=
  if leading items ≠ [] ∧ (trailing items).all isNull then .list (leading items)
  else .ofEntries (present (numbered items))

/-- The present fields of an object, by the names that it lists. -/
def fields (host : Host ω) (o : ω) : List (String × Value ω) :=
  (host.fieldNames o).filterMap fun name => (host.field o name).map (name, ·)

/-- `w` is what is left of `v`. -/
inductive Normal (host : Host ω) : Value ω → Value ω → Prop where
  | null : Normal host .null .null
  | bool (b : Bool) : Normal host (.bool b) (.bool b)
  | int (i : Int64) : Normal host (.int i) (.int i)
  | float (x : Float) : Normal host (.float x) (.float x)
  | str (s : String) : Normal host (.str s) (.str s)
  | list {items : List (Value ω)} (norm : Value ω → Value ω)
      (parts : ∀ v ∈ items, Normal host v (norm v)) :
      Normal host (.list items) (ofItems (items.map norm))
  | map {es : List (String × Value ω)} (norm : Value ω → Value ω)
      (parts : ∀ e ∈ es, Normal host e.2 (norm e.2)) :
      Normal host (.map es) (.ofEntries (present (es.map fun e => (e.1, norm e.2))))
  | text {o : ω} (bare : host.fieldNames o = []) : Normal host (.object o) (.str (host.display o))
  | fields {o : ω} {w : Value ω} (named : host.fieldNames o ≠ [])
      (parts : Normal host (.ofEntries (fields host o)) w) : Normal host (.object o) w

/-- A value as there can be one: maps are in key order, nothing has more parts than can be counted,
and the fields of its objects, and of the objects in them, come to an end. -/
inductive Proper (host : Host ω) : Value ω → Prop where
  | null : Proper host .null
  | bool (b : Bool) : Proper host (.bool b)
  | int (i : Int64) : Proper host (.int i)
  | float (x : Float) : Proper host (.float x)
  | str (s : String) : Proper host (.str s)
  | list {items : List (Value ω)} (size : items.length < 9223372036854775808)
      (parts : ∀ v ∈ items, Proper host v) : Proper host (.list items)
  | map {es : List (String × Value ω)} (ordered : Entries.Ordered es)
      (size : es.length < 9223372036854775808) (parts : ∀ e ∈ es, Proper host e.2) :
      Proper host (.map es)
  | text {o : ω} (bare : host.fieldNames o = []) : Proper host (.object o)
  | fields {o : ω} (named : host.fieldNames o ≠ [])
      (parts : Proper host (.ofEntries (fields host o))) : Proper host (.object o)

/-- A value without absent parts, empty lists and objects. -/
inductive Plain : Value ω → Prop where
  | bool (b : Bool) : Plain (.bool b)
  | int (i : Int64) : Plain (.int i)
  | float (x : Float) : Plain (.float x)
  | str (s : String) : Plain (.str s)
  | list {items : List (Value ω)} (inhabited : items ≠ []) (parts : ∀ v ∈ items, Plain v) :
      Plain (.list items)
  | map {es : List (String × Value ω)} (parts : ∀ e ∈ es, Plain e.2) : Plain (.map es)

/-! ## Present parts -/

section Present

variable {items : List (Value ω)}

theorem mem_present {κ : Type} {es : List (κ × Value ω)} {e : κ × Value ω} :
    e ∈ present es ↔ e ∈ es ∧ e.2.isNull = false := by
  simp [present]

theorem present_eq_self {κ : Type} {es : List (κ × Value ω)}
    (h : ∀ e ∈ es, e.2.isNull = false) : present es = es := by
  refine List.filter_eq_self.2 fun e he => ?_
  rw [h e he]
  rfl

theorem leading_append_trailing (items : List (Value ω)) :
    leading items ++ trailing items = items :=
  List.takeWhile_append_dropWhile

theorem getElem?_leading_add (items : List (Value ω)) (i : Nat) :
    items[(leading items).length + i]? = (trailing items)[i]? := by
  have happend : (leading items ++ trailing items)[(leading items).length + i]? =
      (trailing items)[i]? := by
    rw [List.getElem?_append_right (Nat.le_add_right _ _), Nat.add_sub_cancel_left]
  rwa [leading_append_trailing] at happend

theorem leading_eq_self (h : ∀ v ∈ items, v.isNull = false) : leading items = items := by
  refine List.takeWhile_eq_self_iff.2 fun v hv => ?_
  rw [h v hv]
  rfl

theorem isNull_of_trailing_eq {v : Value ω} {rest : List (Value ω)}
    (h : trailing items = v :: rest) : v.isNull = true := by
  have hhead := List.head?_dropWhile_not (fun v : Value ω => !v.isNull) items
  rw [trailing] at h
  simpa [h] using hhead

theorem isNull_of_mem_leading {v : Value ω} (h : v ∈ leading items) : v.isNull = false := by
  simpa using List.mem_takeWhile_imp h

theorem mem_of_mem_leading {v : Value ω} (h : v ∈ leading items) : v ∈ items :=
  (List.takeWhile_sublist _).subset h

theorem mem_of_mem_numbered {e : String × Value ω} (h : e ∈ numbered items) : e.2 ∈ items := by
  obtain ⟨i, hi, rfl⟩ := List.mem_mapIdx.1 h
  exact List.getElem_mem hi

/-- Present items make up a list as they are. -/
theorem ofItems_eq_list (hne : items ≠ []) (h : ∀ v ∈ items, v.isNull = false) :
    ofItems items = .list items := by
  have hleading := leading_eq_self h
  have htrailing : trailing items = [] := by
    have happend := leading_append_trailing items
    rw [hleading] at happend
    exact List.append_right_eq_self.1 happend
  rw [ofItems, hleading, htrailing, if_pos ⟨hne, rfl⟩]

/-- Present entries in key order are a map as they are. -/
theorem ofEntries_present {es : List (String × Value ω)} (hes : Entries.Ordered es)
    (h : ∀ e ∈ es, e.2.isNull = false) :
    ofEntries (present es) = .map es := by
  rw [present_eq_self h, ofEntries, Entries.ofList_eq_self hes]

theorem isNull_ofItems (items : List (Value ω)) : (ofItems items).isNull = false := by
  unfold ofItems
  split <;> rfl

end Present

/-- What is plain is present. -/
theorem Plain.isNull_eq {v : Value ω} (h : v.Plain) : v.isNull = false := by
  cases h <;> rfl

/-! ## What is left -/

namespace Normal

variable {v w : Value ω}

/-- Something is left exactly of what is present. -/
theorem isNull_eq (h : Normal host v w) : w.isNull = v.isNull := by
  induction h with
  | list => exact isNull_ofItems _
  | fields named parts ih => rw [ih]; rfl
  | _ => rfl

/-- A list of parts that are left as they are, is. -/
theorem list_self {items : List (Value ω)} (hne : items ≠ [])
    (hpresent : ∀ v ∈ items, v.isNull = false) (parts : ∀ v ∈ items, Normal host v v) :
    Normal host (.list items) (.list items) := by
  have h := Normal.list id parts
  rwa [List.map_id, ofItems_eq_list hne hpresent] at h

/-- A map of parts that are left as they are, is. -/
theorem map_self {es : List (String × Value ω)} (hes : Entries.Ordered es)
    (hpresent : ∀ e ∈ es, e.2.isNull = false) (parts : ∀ e ∈ es, Normal host e.2 e.2) :
    Normal host (.map es) (.map es) := by
  have h := Normal.map id parts
  have hid : es.map (fun e => (e.1, id e.2)) = es := List.map_id es
  rwa [hid, ofEntries_present hes hpresent] at h

/-- The map of the present ones of entries whose values are left as they are, is. -/
theorem ofEntries_self {es : List (String × Value ω)} (parts : ∀ e ∈ es, Normal host e.2 e.2) :
    Normal host (.ofEntries (present es)) (.ofEntries (present es)) := by
  have hmem : ∀ e ∈ Entries.ofList (present es), e ∈ es ∧ e.2.isNull = false :=
    fun e he => mem_present.1 (Entries.mem_of_mem_ofList he)
  exact map_self (Entries.ordered_ofList _) (fun e he => (hmem e he).2)
    fun e he => parts e (hmem e he).1

/-- What is left is left again. -/
theorem idem (h : Normal host v w) : Normal host w w := by
  induction h with
  | null => exact .null
  | bool b => exact .bool b
  | int i => exact .int i
  | float x => exact .float x
  | str s => exact .str s
  | @list items norm parts ih =>
    have hparts : ∀ w ∈ items.map norm, Normal host w w := List.forall_mem_map.2 ih
    unfold ofItems
    split
    · next hleading =>
      exact list_self hleading.1 (fun _ => isNull_of_mem_leading)
        fun w hw => hparts w (mem_of_mem_leading hw)
    · exact ofEntries_self fun e he => hparts e.2 (mem_of_mem_numbered he)
  | map norm parts ih => exact ofEntries_self (List.forall_mem_map.2 ih)
  | text bare => exact .str _
  | fields named parts ih => exact ih

/-- A plain value is left as it is. -/
theorem eq_of_plain (h : Normal host v w) (hplain : v.Plain) (hproper : v.Proper host) : w = v := by
  induction h with
  | null => cases hplain
  | bool | int | float | str => rfl
  | @list items norm parts ih =>
    cases hplain with | list hne hplain =>
    cases hproper with | list size hproper =>
    have hself : items.map norm = items := by
      have hid : ∀ v ∈ items, norm v = id v := fun v hv => ih v hv (hplain v hv) (hproper v hv)
      rw [List.map_congr_left hid, List.map_id]
    rw [hself, ofItems_eq_list hne fun v hv => (hplain v hv).isNull_eq]
  | @map es norm parts ih =>
    cases hplain with | map hplain =>
    cases hproper with | map ordered size hproper =>
    have hself : es.map (fun e => (e.1, norm e.2)) = es := by
      have hid : ∀ e ∈ es, (e.1, norm e.2) = id e := fun e he =>
        Prod.ext rfl (ih e he (hplain e he) (hproper e he))
      rw [List.map_congr_left hid, List.map_id]
    rw [hself, ofEntries_present ordered fun e he => (hplain e he).isNull_eq]
  | text => cases hplain
  | fields => cases hplain

end Normal

theorem length_present_le (es : List (String × Value ω)) : (present es).length ≤ es.length :=
  List.length_filter_le _ _

theorem length_leading_le (items : List (Value ω)) : (leading items).length ≤ items.length :=
  (List.takeWhile_sublist _).length_le

/-- The map of the present ones of proper entries is proper. -/
theorem Proper.ofEntries {es : List (String × Value ω)} (size : es.length < 9223372036854775808)
    (parts : ∀ e ∈ es, Proper host e.2) : Proper host (.ofEntries (present es)) := by
  refine .map (Entries.ordered_ofList _) ?_ fun e he => parts e ?_
  · have hmap := Entries.length_ofList_le (present es)
    have hpresent := length_present_le es
    omega
  · exact (mem_present.1 (Entries.mem_of_mem_ofList he)).1

/-- What is left of a proper value is proper. -/
theorem Proper.of_normal {v w : Value ω} (h : Normal host v w) (hproper : v.Proper host) :
    w.Proper host := by
  induction h with
  | null | bool | int | float | str => exact hproper
  | @list items norm parts ih =>
    cases hproper with | list size hproper =>
    have hparts : ∀ w ∈ items.map norm, Proper host w :=
      List.forall_mem_map.2 fun v hv => ih v hv (hproper v hv)
    have hsize : (items.map norm).length < 9223372036854775808 := by rwa [List.length_map]
    unfold ofItems
    split
    · refine .list ?_ fun w hw => hparts w (mem_of_mem_leading hw)
      exact Nat.lt_of_le_of_lt (length_leading_le _) hsize
    · refine .ofEntries ?_ fun e he => hparts e.2 (mem_of_mem_numbered he)
      rwa [numbered, List.length_mapIdx]
  | @map es norm parts ih =>
    cases hproper with | map ordered size hproper =>
    refine .ofEntries (by rwa [List.length_map]) ?_
    exact List.forall_mem_map.2 fun e he => ih e he (hproper e he)
  | text => exact .str _
  | @fields o w named parts ih =>
    cases hproper with
    | text bare => exact absurd bare named
    | fields _ hproper => exact ih hproper

/-- Of every value something is left. -/
theorem Proper.exists_normal {v : Value ω} (h : v.Proper host) : ∃ w, Normal host v w := by
  induction h with
  | null => exact ⟨_, .null⟩
  | bool b => exact ⟨_, .bool b⟩
  | int i => exact ⟨_, .int i⟩
  | float x => exact ⟨_, .float x⟩
  | str s => exact ⟨_, .str s⟩
  | list size parts ih =>
    choose! norm hnorm using ih
    exact ⟨_, .list norm hnorm⟩
  | @map es ordered size parts ih =>
    have hvalues : ∀ v ∈ es.map Prod.snd, ∃ w, Normal host v w := List.forall_mem_map.2 ih
    choose! norm hnorm using hvalues
    exact ⟨_, .map norm fun e he => hnorm e.2 (List.mem_map_of_mem he)⟩
  | text bare => exact ⟨_, .text bare⟩
  | fields named parts ih =>
    obtain ⟨w, hw⟩ := ih
    exact ⟨w, .fields named hw⟩

end TextTemplate.Value
