import Mathlib.Data.List.Nodup
import TextTemplate.Document.Toml.Reader
import TextTemplate.Proofs.Document.Toml.Quoted
import TextTemplate.Proofs.Entries
set_option autoImplicit false

/-!
# Lines: documents that assign texts and truth values

A line assigns a value to a key if it is the key, an equals sign and the value.  A document of such
lines, with or without a line break after the last, is read as the entries that its lines assign, in
their order, if no key occurs twice (`read_of_lines`).
-/

namespace TextTemplate.Document

/-! ## Readers one after another -/

theorem Reader.bind_of_ok {α β : Type} {r : Reader α} {cs rest : List Char} {a : α}
    (h : r cs = .ok (a, rest)) (f : α → Reader β) : (r >>= f) cs = f a rest := by
  change (r cs).bind (fun p => f p.1 p.2) = _
  rw [h]
  rfl

namespace Toml

/-- The key can be written without marks. -/
structure IsBareKey (key : String) : Prop where
  nonempty : key.toList ≠ []
  bare : key.toList.all isBare = true

instance (key : String) : Decidable (IsBareKey key) :=
  decidable_of_iff (key.toList ≠ [] ∧ key.toList.all isBare = true)
    ⟨fun h => ⟨h.1, h.2⟩, fun h => ⟨h.nonempty, h.bare⟩⟩

/-- A truth value or a text on one line, as it is written. -/
inductive Written : List Char → Toml → Prop
  | true : Written "true".toList (.bool true)
  | false : Written "false".toList (.bool false)
  | str {cs s : List Char} (spelling : Spelling cs s) :
      Written ('"' :: cs ++ ['"']) (.str (String.ofList s))

theorem written_flag (b : Bool) : Written (if b then "true" else "false").toList (.bool b) := by
  cases b
  · exact .false
  · exact .true

theorem written_basicText (s : String) : Written (basicText s).toList (.str s) := by
  have h := Written.str (spelling_flatMap s.toList)
  rw [String.ofList_toList] at h
  rw [basicText, String.toList_ofList]
  exact h

/-- The characters of a line that assigns `cs`. -/
def assigning (key : String) (cs : List Char) : List Char := key.toList ++ ' ' :: '=' :: ' ' :: cs

/-- Where a line ends, with the lines after it: at a line break or at the end of the document. -/
inductive LineEnd : List Char → List Char → Prop
  | document : LineEnd [] []
  | feed (cs : List Char) : LineEnd ('\n' :: cs) cs
  | returnFeed (cs : List Char) : LineEnd ('\r' :: '\n' :: cs) cs

/-- A document in which each line assigns a value to a key. -/
inductive Lines : List Char → List (String × Toml) → Prop
  | nil : Lines [] []
  | cons {key : String} {cs rest others : List Char} {v : Toml} {es : List (String × Toml)}
      (bare : IsBareKey key) (written : Written cs v) (ends : LineEnd rest others)
      (lines : Lines others es) : Lines (assigning key cs ++ rest) ((key, v) :: es)

/-! ## One line -/

theorem LineEnd.length_le {rest others : List Char} (h : LineEnd rest others) :
    others.length ≤ rest.length := by
  cases h with
  | document => exact Nat.le_refl 0
  | feed cs => exact Nat.le_succ _
  | returnFeed cs => exact Nat.le_add_right _ 2

section Line

variable {key : String} {cs rest others : List Char} {v : Toml}

theorem valueWith_of_written (item? : Option (Reader Toml)) (h : Written cs v)
    (hrest : LineEnd rest others) : valueWith item? (cs ++ rest) = .ok (v, rest) := by
  cases h with
  | true => rfl
  | false => rfl
  | @str cs s spelling =>
    have hmark : rest.head? ≠ some '"' := by cases hrest <;> simp
    rw [List.append_assoc]
    have htext := text_of_spelling spelling hmark
    change (text '"' >>= fun s => (return .str s : Reader Toml)) ('"' :: cs ++ '"' :: rest) = _
    rw [Reader.bind_of_ok htext]
    rfl

theorem trailing_of_lineEnd (h : LineEnd rest others) : trailing rest = .ok ((), others) := by
  cases h <;> rfl

theorem spaces_of_not {c : Char} (h : isSpace c = false) (cs : List Char) :
    spaces (c :: cs) = .ok ((), c :: cs) :=
  congrArg (fun cs => Except.ok ((), cs))
    (List.dropWhile_cons_of_neg (by rw [h]; exact Bool.false_ne_true))

theorem spaces_blank {c : Char} (h : isSpace c = false) (cs : List Char) :
    spaces (' ' :: c :: cs) = .ok ((), c :: cs) := spaces_of_not h cs

theorem IsBareKey.exists_cons (h : IsBareKey key) :
    ∃ c cs, key.toList = c :: cs ∧ isBare c = true := by
  cases hkey : key.toList with
  | nil => exact absurd hkey h.nonempty
  | cons c cs => exact ⟨c, cs, rfl, List.all_eq_true.1 h.bare c (hkey ▸ List.mem_cons_self)⟩

/-- A key begins with no blank, mark or bracket. -/
theorem ne_of_isBare {c d : Char} (h : isBare c = true) (hd : isBare d = false) : c ≠ d := by
  rintro rfl
  rw [h] at hd
  cases hd

theorem some_ne_of_isBare {c d : Char} (h : isBare c = true) (hd : isBare d = false) :
    some c ≠ some d := fun heq => ne_of_isBare h hd (Option.some.inj heq)

theorem isSpace_of_isBare {c : Char} (h : isBare c = true) : isSpace c = false := by
  rw [isSpace, Bool.or_eq_false_iff, beq_eq_false_iff_ne, beq_eq_false_iff_ne]
  exact ⟨ne_of_isBare h (by decide), ne_of_isBare h (by decide)⟩

theorem keyPart_of_bare (h : IsBareKey key) (cs : List Char) :
    keyPart (key.toList ++ ' ' :: cs) = .ok (key, ' ' :: cs) := by
  obtain ⟨c, cs', hkey, hc⟩ := h.exists_cons
  have hpeek : Reader.peek? (key.toList ++ ' ' :: cs) =
      .ok (some c, key.toList ++ ' ' :: cs) := by rw [hkey]; rfl
  have htake : Reader.takeWhile isBare (key.toList ++ ' ' :: cs) =
      .ok (key.toList, ' ' :: cs) := by
    have hbare := List.all_eq_true.1 h.bare
    rw [Reader.takeWhile, List.takeWhile_append_of_pos hbare, List.dropWhile_append_of_pos hbare]
    simp [isBare]
  have hempty : key.toList.isEmpty = false := by rw [hkey]; rfl
  rw [keyPart, Reader.bind_of_ok hpeek]
  -- Which reader goes on is settled before it is given the input.
  refine (congrFun (?_ : _ = Reader.takeWhile isBare >>= fun cs =>
    if cs.isEmpty then Reader.unexpected else return String.ofList cs) _).trans ?_
  · split
    · next heq => exact absurd heq (some_ne_of_isBare hc (by decide))
    · next heq => exact absurd heq (some_ne_of_isBare hc (by decide))
    · rfl
  · rw [Reader.bind_of_ok htake, hempty]
    change Except.ok (String.ofList key.toList, ' ' :: cs) = _
    rw [String.ofList_toList]

theorem key_of_bare (h : IsBareKey key) (cs : List Char) :
    Toml.key (key.toList ++ ' ' :: '=' :: cs) = .ok (([], key), '=' :: cs) := by
  obtain ⟨c, cs', hkey, hc⟩ := h.exists_cons
  have hspaces : spaces (key.toList ++ ' ' :: '=' :: cs) =
      .ok ((), key.toList ++ ' ' :: '=' :: cs) := by
    rw [hkey]
    exact spaces_of_not (isSpace_of_isBare hc) _
  have hparts : keyParts (depthLimit - 1) (key.toList ++ ' ' :: '=' :: cs) =
      .ok ([key], '=' :: cs) := by
    obtain ⟨fuel, hfuel⟩ : ∃ less, depthLimit - 1 = less + 1 := ⟨depthLimit - 2, rfl⟩
    rw [hfuel, keyParts, Reader.bind_of_ok hspaces, Reader.bind_of_ok (keyPart_of_bare h _),
      Reader.bind_of_ok (spaces_blank (by decide) _)]
    rfl
  rw [Toml.key, Reader.bind_of_ok hparts]
  rfl

/-- A line that assigns a value, up to its end. -/
theorem pair_of_assigning (item? : Option (Reader Toml)) (hkey : IsBareKey key)
    (h : Written cs v) (hrest : LineEnd rest others) :
    pair (valueWith item?) (assigning key cs ++ rest) = .ok (([], key, v), rest) := by
  have hassigning : assigning key cs ++ rest =
      key.toList ++ ' ' :: '=' :: ' ' :: (cs ++ rest) := by
    simp [assigning]
  have hspaces : spaces (' ' :: (cs ++ rest)) = .ok ((), cs ++ rest) := by
    cases h <;> rfl
  rw [hassigning, pair, Reader.bind_of_ok (key_of_bare hkey _)]
  change (Reader.expect '=' >>= fun _ => _ : Reader _) _ = _
  rw [Reader.bind_of_ok (rfl : Reader.expect '=' ('=' :: ' ' :: (cs ++ rest)) =
    .ok ((), ' ' :: (cs ++ rest))), Reader.bind_of_ok hspaces,
    Reader.bind_of_ok (valueWith_of_written item? h hrest)]
  rfl

end Line

/-! ## The entries so far -/

namespace Outline

/-- A document without headers whose lines assign `es`. -/
def assigned (es : List (String × Toml)) : Outline :=
  ⟨.empty, .mk false false (es.map fun e => (e.1, .value e.2)), none, false⟩

theorem put_of_notMem {key : String} {es : List (String × Toml)} (h : key ∉ Entries.keys es)
    (v : Toml) : Section.put key (.value v) (es.map fun e => (e.1, .value e.2)) =
      (es ++ [(key, v)]).map fun e => (e.1, .value e.2) := by
  induction es with
  | nil => rfl
  | cons e es ih =>
    obtain ⟨hne, hmem⟩ := not_or.1 (mt List.mem_cons.2 h)
    rw [List.map_cons, Section.put, if_neg hne, ih hmem]
    rfl

theorem addValue_assigned {key : String} {es : List (String × Toml)} (h : key ∉ Entries.keys es)
    (v : Toml) : (assigned es).addValue [] key v = .ok (assigned (es ++ [(key, v)])) := by
  have hnone : (assigned es).current.find? key = none := by
    refine Entries.find?_eq_none_of_not_mem ?_
    change key ∉ Entries.keys (es.map fun e => (e.1, Item.value e.2))
    rwa [Entries.keys, List.map_map]
  have hadd : (assigned es).current.addValue [] key v =
      .ok ((assigned es).current.insert key (.value v)) := by
    rw [Section.addValue, Section.modifyAt, hnone]
    rfl
  have hinsert : (assigned es).current.insert key (.value v) =
      (assigned (es ++ [(key, v)])).current := congrArg (Section.mk false false) (put_of_notMem h v)
  rw [addValue, hadd, hinsert]
  rfl

theorem finish_assigned (es : List (String × Toml)) : (assigned es).finish = .ok es := by
  have hentries : Section.finishEntries (es.map fun e => (e.1, .value e.2)) = es := by
    induction es with
    | nil => rfl
    | cons e es ih => rw [List.map_cons, Section.finishEntries, ih, Section.finishItem]
  exact congrArg Except.ok hentries

end Outline

/-! ## All lines -/

section Document

variable {key : String} {cs rest others : List Char} {v : Toml} {o o' : Outline}

theorem assigning_eq_cons (hkey : IsBareKey key) (cs : List Char) :
    ∃ c cs', assigning key cs = c :: cs' ∧ isBare c = true := by
  obtain ⟨c, cs', heq, hc⟩ := hkey.exists_cons
  exact ⟨c, _, by rw [assigning, heq]; rfl, hc⟩

theorem line_of_assigning (hkey : IsBareKey key) (h : Written cs v) (hrest : LineEnd rest others)
    (hadd : o.addValue [] key v = .ok o') :
    line o (assigning key cs ++ rest) = .ok (o', others) := by
  obtain ⟨c, cs', heq, hc⟩ := assigning_eq_cons hkey cs
  have hspaces : spaces (assigning key cs ++ rest) = .ok ((), assigning key cs ++ rest) := by
    rw [heq]
    exact spaces_of_not (isSpace_of_isBare hc) _
  have hpeek : Reader.peek? (assigning key cs ++ rest) =
      .ok (some c, assigning key cs ++ rest) := by rw [heq]; rfl
  have hpair : pair (value (depthLimit - 1)) (assigning key cs ++ rest) =
      .ok (([], key, v), rest) := pair_of_assigning _ hkey h hrest
  have hassignment : assignment o (assigning key cs ++ rest) = .ok (o', others) := by
    rw [assignment, Reader.bind_of_ok hpair]
    change (trailing >>= fun _ => _ : Reader _) _ = _
    rw [Reader.bind_of_ok (trailing_of_lineEnd hrest), hadd]
    rfl
  rw [line, Reader.bind_of_ok hspaces, Reader.bind_of_ok hpeek]
  refine (congrFun (?_ : _ = assignment o) _).trans hassignment
  split
  · next heq => exact absurd heq (some_ne_of_isBare hc (by decide))
  · next heq => exact absurd heq (some_ne_of_isBare hc (by decide))
  · next heq => exact absurd heq (some_ne_of_isBare hc (by decide))
  · next heq => exact absurd heq (some_ne_of_isBare hc (by decide))
  · next heq => cases heq
  · rfl

/-- One line more is assigned. -/
theorem document_of_assigning {done : List (String × Toml)} (hkey : IsBareKey key)
    (h : Written cs v) (hrest : LineEnd rest others) (hnew : key ∉ Entries.keys done) (fuel : Nat) :
    document (.assigned done) (fuel + 1) (assigning key cs ++ rest) =
      document (.assigned (done ++ [(key, v)])) fuel others := by
  have hline := line_of_assigning hkey h hrest (Outline.addValue_assigned hnew v)
  obtain ⟨c, cs', heq, -⟩ := assigning_eq_cons hkey cs
  rw [heq] at hline ⊢
  exact Reader.bind_of_ok hline fun o => document o fuel

theorem document_of_lines {es done : List (String × Toml)} (h : Lines cs es)
    (hnodup : (Entries.keys (done ++ es)).Nodup) {fuel : Nat} (hfuel : cs.length < fuel) :
    document (.assigned done) fuel cs = .ok (.assigned (done ++ es), []) := by
  -- The lines before assign `done`; each line is longer than nothing, so the fuel lasts.
  induction h generalizing done fuel with
  | nil =>
    rw [List.append_nil]
    cases fuel <;> rfl
  | @cons key cs rest others v es bare written ends lines ih =>
    have hnew : key ∉ Entries.keys done := by
      intro hmem
      rw [Entries.keys, List.map_append, List.map_cons] at hnodup
      exact (List.nodup_append.1 hnodup).2.2 key hmem key List.mem_cons_self rfl
    have hlength := ends.length_le
    obtain ⟨fuel, rfl⟩ : ∃ less, fuel = less + 1 := ⟨fuel - 1, by omega⟩
    have hdone : done ++ (key, v) :: es = (done ++ [(key, v)]) ++ es := by simp
    rw [hdone] at hnodup ⊢
    rw [document_of_assigning bare written ends hnew]
    refine ih hnodup ?_
    rw [List.length_append, assigning, List.length_append, List.length_cons] at hfuel
    omega

theorem Lines.isBare_head {es : List (String × Toml)} (h : Lines cs es) :
    ∀ c ∈ cs.head?, isBare c = true := by
  intro c hmem
  cases h with
  | nil => cases hmem
  | @cons key cs rest others v es bare =>
    obtain ⟨c', cs', heq, hc⟩ := assigning_eq_cons bare cs
    rw [heq] at hmem
    cases hmem
    exact hc

/-- A document of lines is read as what its lines assign. -/
theorem read_of_lines {es : List (String × Toml)} (h : Lines cs es)
    (hnodup : (Entries.keys es).Nodup) : read (String.ofList cs) = .ok es := by
  have hmark : Reader.accept '\ufeff' cs = .ok (false, cs) := by
    cases cs with
    | nil => rfl
    | cons c cs => exact if_neg (ne_of_isBare (h.isBare_head c rfl) (by decide)).symm
  have hdocument : document (.assigned []) (cs.length + 1) cs = .ok (.assigned es, []) := by
    rw [← List.nil_append es] at hnodup
    exact document_of_lines h hnodup (Nat.lt_succ_self cs.length)
  have hreader : (Reader.accept '\ufeff' >>= fun _ => get >>= fun cs =>
      document .empty (cs.length + 1) : Reader Outline) cs = .ok (.assigned es, []) := by
    rw [Reader.bind_of_ok hmark]
    exact hdocument
  have hrun : Reader.run (Reader.accept '\ufeff' >>= fun _ => get >>= fun cs =>
      document .empty (cs.length + 1)) (String.ofList cs) = .ok (.assigned es) := by
    rw [Reader.run, String.toList_ofList, hreader]
  change (Reader.run _ _ >>= Outline.finish) = _
  rw [hrun]
  exact Outline.finish_assigned es

end Document

end Toml

end TextTemplate.Document
