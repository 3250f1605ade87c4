set_option autoImplicit false

/-!
# Entries: association lists in key order

A map is the list of its entries, each key once, in increasing key order.  Keeping the order in the
list makes it observable without an iterator: whatever walks a map walks it in key order.
`Ordered` is the invariant, and `insert`, `erase` and `ofList` keep it.
-/

namespace TextTemplate

/-- A key order: a decidable strict order in which two different keys are always comparable. -/
class KeyOrder (κ : Type) extends LT κ where
  decidableLt : DecidableLT κ
  decidableEq : DecidableEq κ
  irrefl : ∀ a : κ, ¬ a < a
  trans : ∀ {a b c : κ}, a < b → b < c → a < c
  connected : ∀ a b : κ, a < b ∨ a = b ∨ b < a

namespace KeyOrder

instance {κ : Type} [KeyOrder κ] : DecidableLT κ := decidableLt

instance {κ : Type} [KeyOrder κ] : DecidableEq κ := decidableEq

/-- Texts are ordered by their first differing character, which is also the order of their bytes. -/
instance : KeyOrder String where
  decidableLt := inferInstance
  decidableEq := inferInstance
  irrefl := String.lt_irrefl
  trans := String.lt_trans
  connected a b := by
    by_cases h : a < b
    · exact .inl h
    · by_cases h' : b < a
      · exact .inr (.inr h')
      · exact .inr (.inl (String.le_antisymm h' h))

instance : KeyOrder Int where
  decidableLt := inferInstance
  decidableEq := inferInstance
  irrefl := Int.lt_irrefl
  trans := Int.lt_trans
  connected := Int.lt_trichotomy

end KeyOrder

/-- The entries of a map. -/
abbrev Entries (κ α : Type) := List (κ × α)

namespace Entries

variable {κ α : Type} [KeyOrder κ]

/-- The keys, in order. -/
def keys (es : Entries κ α) : List κ := es.map (·.1)

/-- The keys increase strictly. -/
def Ordered (es : Entries κ α) : Prop := (keys es).Pairwise (· < ·)

/-- What is stored under `k`. -/
def find? (k : κ) : Entries κ α → Option α
  | [] => none
  | (k', v) :: es => if k = k' then some v else find? k es

/-- Stores `v` under `k`, in place of what was there. -/
def insert (k : κ) (v : α) : Entries κ α → Entries κ α
  | [] => [(k, v)]
  | (k', v') :: es =>
    if k < k' then (k, v) :: (k', v') :: es
    else if k = k' then (k, v) :: es
    else (k', v') :: insert k v es

/-- Removes what is stored under `k`. -/
def erase (k : κ) : Entries κ α → Entries κ α
  | [] => []
  | (k', v) :: es => if k = k' then es else (k', v) :: erase k es

/-- Stores every entry of `es`, from the first to the last. -/
def insertAll (m : Entries κ α) (es : List (κ × α)) : Entries κ α :=
  es.foldl (fun m e => insert e.1 e.2 m) m

/-- The map of the given entries; of several under one key the last counts. -/
def ofList (es : List (κ × α)) : Entries κ α := insertAll [] es

/-! ## The order is kept -/

theorem mem_keys_insert {k x : κ} {v : α} {es : Entries κ α} (h : x ∈ keys (insert k v es)) :
    x = k ∨ x ∈ keys es := by
  induction es with
  | nil => simpa [insert, keys] using h
  | cons e es ih =>
    obtain ⟨k', v'⟩ := e
    unfold insert at h
    split at h
    · simpa [keys] using h
    · split at h
      · subst_vars
        simp only [keys, List.map_cons, List.mem_cons] at h ⊢
        rcases h with h | h
        · exact .inl h
        · exact .inr (.inr h)
      · simp only [keys, List.map_cons, List.mem_cons] at h ⊢
        rcases h with h | h
        · exact .inr (.inl h)
        · rcases ih h with h | h
          · exact .inl h
          · exact .inr (.inr h)

theorem mem_keys_erase {k x : κ} {es : Entries κ α} (h : x ∈ keys (erase k es)) : x ∈ keys es := by
  induction es with
  | nil => simpa [erase] using h
  | cons e es ih =>
    obtain ⟨k', v'⟩ := e
    unfold erase at h
    split at h
    · simp only [keys, List.map_cons, List.mem_cons]
      exact .inr h
    · simp only [keys, List.map_cons, List.mem_cons] at h ⊢
      rcases h with h | h
      · exact .inl h
      · exact .inr (ih h)

theorem ordered_nil : Ordered ([] : Entries κ α) := List.Pairwise.nil

theorem ordered_cons {k : κ} {v : α} {es : Entries κ α} :
    Ordered ((k, v) :: es) ↔ (∀ x ∈ keys es, k < x) ∧ Ordered es := by
  simp [Ordered, keys, List.pairwise_cons]

theorem ordered_insert {k : κ} {v : α} {es : Entries κ α} (h : Ordered es) :
    Ordered (insert k v es) := by
  induction es with
  | nil => simp [insert, Ordered, keys]
  | cons e es ih =>
    obtain ⟨k', v'⟩ := e
    obtain ⟨hlt, hes⟩ := ordered_cons.1 h
    unfold insert
    split
    · next hk =>
      refine ordered_cons.2 ⟨fun x hx => ?_, h⟩
      simp only [keys, List.map_cons, List.mem_cons] at hx
      rcases hx with rfl | hx
      · exact hk
      · exact KeyOrder.trans hk (hlt x hx)
    · split
      · next hk => subst hk; exact ordered_cons.2 ⟨hlt, hes⟩
      · next hk hne =>
        refine ordered_cons.2 ⟨fun x hx => ?_, ih hes⟩
        rcases mem_keys_insert hx with rfl | hx
        · rcases KeyOrder.connected x k' with h' | h' | h'
          · exact absurd h' hk
          · exact absurd h' hne
          · exact h'
        · exact hlt x hx

theorem ordered_erase {k : κ} {es : Entries κ α} (h : Ordered es) : Ordered (erase k es) := by
  induction es with
  | nil => simpa [erase] using h
  | cons e es ih =>
    obtain ⟨k', v'⟩ := e
    obtain ⟨hlt, hes⟩ := ordered_cons.1 h
    unfold erase
    split
    · exact hes
    · exact ordered_cons.2 ⟨fun x hx => hlt x (mem_keys_erase hx), ih hes⟩

theorem ordered_insertAll {m : Entries κ α} (es : List (κ × α)) (h : Ordered m) :
    Ordered (insertAll m es) := by
  induction es generalizing m with
  | nil => exact h
  | cons e es ih => exact ih (ordered_insert h)

theorem ordered_ofList (es : List (κ × α)) : Ordered (ofList es) :=
  ordered_insertAll es ordered_nil

end Entries

end TextTemplate
