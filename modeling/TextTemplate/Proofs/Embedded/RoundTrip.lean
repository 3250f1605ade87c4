import TextTemplate.Embedded.Session
import TextTemplate.Fixture.Object
import TextTemplate.Proofs.Embedded.Stored
import TextTemplate.Proofs.Value.Detached
set_option autoImplicit false

/-!
# Round trip: values as global names

A value that is registered with a session under a name, and read back as the global of that name,
comes back as what is left of it without absent parts and objects, however the tables are looked at
(`exists_roundTrip`).  The values are those whose objects come to an end, and a session reaches them
if it follows objects deep enough.
-/

namespace TextTemplate.Embedded

open Value (Detached Normal Proper Plain outcome detach)

variable {ω : Type} {host : Host ω} {view : TableView} {v w : Value ω}

/-! ## Detached and stored -/

/-- What holds of each item from some depth on holds of all items from some depth on. -/
theorem exists_least {α : Type} {P : α → Nat → Prop} {items : List α}
    (h : ∀ a ∈ items, ∃ least, ∀ depth, least ≤ depth → P a depth) :
    ∃ least, ∀ depth, least ≤ depth → ∀ a ∈ items, P a depth := by
  induction items with
  | nil => exact ⟨0, fun depth _ a ha => absurd ha List.not_mem_nil⟩
  | cons a items ih =>
    obtain ⟨⟨least, hfirst⟩, hitems⟩ := List.forall_mem_cons.1 h
    obtain ⟨least', hothers⟩ := ih hitems
    refine ⟨max least least', fun depth hdepth => List.forall_mem_cons.2 ⟨?_, ?_⟩⟩
    · exact hfirst depth (by omega)
    · exact hothers depth (by omega)

/-- At a depth, `v` can be detached, and what is detached comes back as `w`. -/
def Survives (host : Host ω) (view : TableView) (v w : Value ω) (depth : Nat) : Prop :=
  ∃ d, outcome (v.detach host depth) = some d ∧ ReadAs view d w

/-- What a value is detached as, if it can be. -/
def detached (host : Host ω) (depth : Nat) (v : Value ω) : Detached :=
  (outcome (v.detach host depth)).getD .null

theorem Survives.detached {depth : Nat} (h : Survives host view v w depth) :
    outcome (v.detach host depth) = some (detached host depth v) ∧
      ReadAs view (detached host depth v) w := by
  obtain ⟨d, hd, hread⟩ := h
  rw [Embedded.detached, hd]
  exact ⟨rfl, hread⟩

/-- A value whose objects come to an end survives as what is left of it. -/
theorem exists_survives (hview : view.Lawful) (h : Normal host v w) (hproper : v.Proper host) :
    ∃ least, ∀ depth, least ≤ depth → Survives host view v w depth := by
  induction h with
  | null => exact ⟨0, fun depth _ => ⟨_, rfl, .null⟩⟩
  | bool b => exact ⟨0, fun depth _ => ⟨_, rfl, .bool b⟩⟩
  | int i => exact ⟨0, fun depth _ => ⟨_, rfl, .int i⟩⟩
  | float x => exact ⟨0, fun depth _ => ⟨_, rfl, .float x⟩⟩
  | str s => exact ⟨0, fun depth _ => ⟨_, rfl, .str s⟩⟩
  | @list items norm parts ih =>
    cases hproper with | list size hproper =>
    obtain ⟨least, hitems⟩ := exists_least fun v hv => ih v hv (hproper v hv)
    refine ⟨least, fun depth hdepth => ⟨.list (items.map (detached host depth)), ?_, ?_⟩⟩
    · have hall := Value.outcome_detachItems fun v hv => (hitems depth hdepth v hv).detached.1
      rw [detach, Value.detachWith, Value.outcome_bind, hall]
      rfl
    · exact .list hview size fun v hv => (hitems depth hdepth v hv).detached.2
  | @map es norm parts ih =>
    cases hproper with | map ordered size hproper =>
    obtain ⟨least, hes⟩ := exists_least fun e he => ih e he (hproper e he)
    refine ⟨least, fun depth hdepth =>
      ⟨.map (es.map fun e => (e.1, detached host depth e.2)), ?_, ?_⟩⟩
    · have hall := Value.outcome_detachEntries fun e he => (hes depth hdepth e he).detached.1
      rw [detach, Value.detachWith, Value.outcome_bind, hall]
      rfl
    · exact .map hview (Entries.ordered_nodup ordered) size fun e he =>
        (hes depth hdepth e he).detached.2
  | @text o bare =>
    refine ⟨1, fun depth hdepth => ⟨.str (host.display o), ?_, .str _⟩⟩
    obtain ⟨depth, rfl⟩ : ∃ less, depth = less + 1 := ⟨depth - 1, by omega⟩
    simp only [detach, Value.detachWith, Value.detachObject, bare]
    rfl
  | @fields o w named parts ih =>
    cases hproper with
    | text bare => exact absurd bare named
    | fields _ hproper =>
      obtain ⟨least, hfields⟩ := ih hproper
      refine ⟨least + 1, fun depth hdepth => ?_⟩
      obtain ⟨depth, rfl⟩ : ∃ less, depth = less + 1 := ⟨depth - 1, by omega⟩
      obtain ⟨d, hd, hread⟩ := hfields depth (by omega)
      exact ⟨d, Value.outcome_detachObject named hd, hread⟩

/-! ## Global names -/

/-- There is more than one level of evaluation. -/
theorem exists_evaluator_eq : ∃ depth, evaluator = Evaluator.ofDepth (depth + 2) :=
  ⟨maxDepth - 2, rfl⟩

/-- The global names can be set: there is a table of them, and no metatable gets in the way. -/
structure Machine.Open (m : Machine) : Prop where
  lt : globals < m.heap.size
  nodup : (Table.keys (m.heap.table globals).entries).Nodup
  metatable : (m.heap.table globals).metatable = none

/-- The value of a global name. -/
def Machine.global (view : TableView) (m : Machine) (name : String) : Except Fault (Value ω) :=
  result view m.heap ((m.heap.table globals).get (.ofString name))

/-- A machine with a global name set. -/
def Machine.setGlobal (m : Machine) (name : String) (d : Datum) : Machine :=
  { m with heap := m.heap.replace globals ((m.heap.table globals).set (.ofString name) d) }

section Global

variable {m m' : Machine} {name : String} {d : Datum} {depth : Nat}

theorem Run.bind_ok {α β : Type} {x : Run α} {f : α → Run β} {a : α}
    (h : x.run m = (.ok a, m')) : (x >>= f).run m = (f a).run m' := by
  have hbind : (x >>= f).run m = (match x.run m with
      | (.ok a, m') => (f a).run m'
      | (.error e, m') => (.error e, m')) := by
    change (match x.run m with | (r, m') => ExceptT.bindCont f r m') = _
    rcases x.run m with ⟨_ | _, _⟩ <;> rfl
  rw [hbind, h]

/-- Without a metatable an item is stored, whether its key is new or not. -/
theorem assignHere_run (inner : Evaluator) (name : String) (d : Datum) (hm : m.Open) :
    (inner.assignHere (.table globals) (.ofString name) d).run m =
      (.ok (), m.setGlobal name d) := by
  have hhandler : Evaluator.newKeyHandler (m.heap.table globals) = pure .nil := by
    simp only [Evaluator.newKeyHandler, hm.metatable]
  change (ite (((m.heap.table globals).get? (.ofString name)).isSome = true) _
    (Evaluator.newKeyHandler (m.heap.table globals) >>= _) : Run Unit).run m = _
  rw [hhandler, pure_bind]
  split <;> rfl

theorem setName_eq (hm : m.Open) (name : String) (d : Datum) :
    setName name d m = (.ok (), m.setGlobal name d) := by
  obtain ⟨depth, hevaluator⟩ := exists_evaluator_eq
  have hassign : (setGlobal name d).run m = (.ok (), m.setGlobal name d) := by
    rw [setGlobal, hevaluator]
    exact assignHere_run (Evaluator.ofDepth (depth + 1)) name d hm
  rw [setName, hassign]

theorem table_setGlobal (hm : m.Open) (name : String) (d : Datum) :
    (m.setGlobal name d).heap.table globals =
      (m.heap.table globals).set (.ofString name) d := by
  simp [Machine.setGlobal, Heap.table, Heap.replace, hm.lt]

theorem size_setGlobal (m : Machine) (name : String) (d : Datum) :
    (m.setGlobal name d).heap.size = m.heap.size := by
  simp [Machine.setGlobal, Heap.replace]

/-- Setting a global name changes no other table. -/
theorem keeps_setGlobal (m : Machine) (name : String) (d : Datum) :
    Heap.Keeps 1 m.heap (m.setGlobal name d).heap := by
  intro id hid _
  have hne : globals ≠ id := by
    rw [globals]
    omega
  simp [Machine.setGlobal, Heap.table, Heap.replace, Array.getElem?_setIfInBounds_ne hne]

theorem open_setGlobal (hm : m.Open) (name : String) (d : Datum) : (m.setGlobal name d).Open := by
  refine ⟨?_, ?_, ?_⟩
  · rw [size_setGlobal]
    exact hm.lt
  · rw [table_setGlobal hm]
    exact Table.nodup_set hm.nodup
  · rw [table_setGlobal hm]
    exact hm.metatable

theorem Machine.Open.of_extends (hm : m.Open) {heap : Heap} (h : m.heap.Extends heap) :
    { m with heap }.Open := by
  have htable := h.table_eq globals hm.lt
  refine ⟨Nat.lt_of_lt_of_le hm.lt h.size_le, ?_, ?_⟩
  · rw [htable]
    exact hm.nodup
  · rw [htable]
    exact hm.metatable

theorem set_result {stored : Detached} (h : outcome (v.detach host depth) = some stored) :
    ((interpreter host view depth).set name v m).result =
      setName name (store stored m.heap).1 { m with heap := (store stored m.heap).2 } := by
  have hrun : (v.detach host depth).run.result = some stored := h
  simp only [interpreter, Logged.bind_result, hrun]
  rfl

/-- A value that survives is registered under a name, and read back as what is left of it. -/
theorem Survives.exists_set (h : Survives host view v w depth) (hm : m.Open) (name : String) :
    ∃ m', ((interpreter host view depth).set name v m).result = (.ok (), m') ∧ m'.Open ∧
      m'.global view name = .ok w := by
  obtain ⟨stored, hstored, hread⟩ := h
  have hgrows := hread.grows m.heap
  have hopen := hm.of_extends hgrows
  refine ⟨_, (set_result hstored).trans (setName_eq hopen _ _), open_setGlobal hopen _ _, ?_⟩
  -- The tables of the value are all behind that of the global names.
  have hkeeps := (keeps_setGlobal { m with heap := (store stored m.heap).2 } name
    (store stored m.heap).1).mono (Nat.succ_le_of_lt (Nat.zero_lt_of_lt hm.lt))
  have hdepth : (store stored m.heap).2.size ≤
      m.heap.size + ((store stored m.heap).2.size + 1) := by omega
  rw [Machine.global, table_setGlobal hopen, Table.get_set_self hopen.nodup, result,
    size_setGlobal, (hread.reads m.heap _ _ hkeeps hdepth).value]
  rfl

theorem blockHere_run {inner : Evaluator}
    (h : inner.values [] (.name name) = inner.valuesHere [] (.name name)) :
    (inner.blockHere [] [.return_ [.name name]]).run m =
      (.ok (some [(m.heap.table globals).get (.ofString name)]), m) := by
  rw [Evaluator.blockHere, Evaluator.statement, Evaluator.valueList, h]
  rfl

theorem runChunk_run (m : Machine) (name : String) :
    (runChunk [.return_ [.name name]]).run m =
      (.ok ((m.heap.table globals).get (.ofString name)), m) := by
  obtain ⟨depth, hevaluator⟩ := exists_evaluator_eq
  have hblock : evaluator.block = (Evaluator.ofDepth (depth + 1)).blockHere := by
    rw [hevaluator]
    rfl
  rw [runChunk, hblock]
  exact Run.bind_ok (blockHere_run rfl)

/-- The script that is a name is read as the value of the name. -/
theorem readEvaluated_of_name
    (h : Token.ofText ("return " ++ name) = .ok [.reserved "return", .name name]) :
    Chunk.readEvaluated name = .ok [.return_ [.name name]] := by
  -- Three levels are enough, and the ones below them are not looked at.
  have hblock (depth : Nat) :
      (Chunk.Level.ofDepth 3 (depth + 3)).block [.reserved "return", .name name] =
        .ok ([.return_ [.name name]], []) := rfl
  have hdepth : Chunk.maxDepth = 196 + 3 := rfl
  have hread : Chunk.read ("return " ++ name) = .ok [.return_ [.name name]] := by
    simp only [Chunk.read, h, hdepth, List.length_cons, List.length_nil, bind, Except.bind, hblock]
    rfl
  rw [Chunk.readEvaluated, hread]

/-- A script that is a global name gives the value of that name. -/
theorem eval_name (h : m.global view name = .ok w) {source : String}
    (hsource : Chunk.readEvaluated source = .ok [.return_ [.name name]]) :
    (interpreter host view depth).eval source m = pure (.ok w, m) := by
  have hchunk : (runChunk [.return_ [.name name]]).run m =
      (.ok ((m.heap.table globals).get (.ofString name)), m) := runChunk_run m name
  have hresult : result view m.heap ((m.heap.table globals).get (.ofString name)) = .ok w := h
  simp only [interpreter, evalScript, returnResult, hsource, hchunk, hresult]
  rfl

end Global

/-- A value whose objects come to an end can be registered, and is read back as what is left of it,
which is one value; a plain value is read back as it is.  When what was read back is registered in
its place, the same is read back again. -/
theorem exists_roundTrip (hview : view.Lawful) (hproper : v.Proper host) (name : String)
    {m : Machine} (hm : m.Open) :
    ∃ w, (∀ w', Normal host v w' ↔ w' = w) ∧ (v.Plain → w = v) ∧
      ∃ least, ∀ depth, least ≤ depth → ∃ m' m'',
        ((interpreter host view depth).set name v m).result = (.ok (), m') ∧
        m'.global view name = .ok w ∧
        ((interpreter host view depth).set name w m').result = (.ok (), m'') ∧
        m''.global view name = .ok w ∧
        ∀ source, Chunk.readEvaluated source = .ok [.return_ [.name name]] →
          (interpreter host view depth).eval source m' = pure (.ok w, m') ∧
          (interpreter host view depth).eval source m'' = pure (.ok w, m'') := by
  obtain ⟨w, hnormal⟩ := hproper.exists_normal
  obtain ⟨least, hfirst⟩ := exists_survives hview hnormal hproper
  obtain ⟨least', hsecond⟩ := exists_survives hview hnormal.idem (hproper.of_normal hnormal)
  refine ⟨w, fun w' => ⟨fun hnormal' => ?_, ?_⟩, (hnormal.eq_of_plain · hproper),
    max least least', fun depth hdepth => ?_⟩
  · -- Both are what is read back, so they are the same.
    obtain ⟨least'', hother⟩ := exists_survives hview hnormal' hproper
    obtain ⟨m', hset, -, hread⟩ := (hfirst (max least least'') (by omega)).exists_set hm name
    obtain ⟨n', hset', -, hread'⟩ := (hother (max least least'') (by omega)).exists_set hm name
    obtain rfl : m' = n' := (Prod.mk.inj (hset.symm.trans hset')).2
    exact Except.ok.inj (hread'.symm.trans hread)
  · rintro rfl
    exact hnormal
  · obtain ⟨m', hset, hopen, hread⟩ := (hfirst depth (by omega)).exists_set hm name
    obtain ⟨m'', hset', -, hread'⟩ := (hsecond depth (by omega)).exists_set hopen name
    exact ⟨m', m'', hset, hread, hset', hread', fun source hsource =>
      ⟨eval_name hread hsource, eval_name hread' hsource⟩⟩

/-- A list with an absent item before others is read back as a map of its present items: the
dimension in it as the map of its fields, and the empty list as an empty map. -/
theorem exists_roundTrip_of_holes :
    let dimension : Value Fixture.Object := .object (.mk 1 0 (.dimension 3 4))
    let v : Value Fixture.Object := .list [.null, dimension, .list [], .null]
    let w : Value Fixture.Object :=
      .map [("2", .map [("height", .int 4), ("width", .int 3)]), ("3", .map [])]
    ∃ least, ∀ depth, least ≤ depth → ∃ m' m'',
      ((interpreter Fixture.host .standard depth).set "x" v Machine.initial).result =
        (.ok (), m') ∧
      (interpreter Fixture.host .standard depth).eval "x" m' = pure (.ok w, m') ∧
      ((interpreter Fixture.host .standard depth).set "x" w m').result = (.ok (), m'') ∧
      (interpreter Fixture.host .standard depth).eval "x" m'' = pure (.ok w, m'') := by
  intro dimension v w
  have hsource : Chunk.readEvaluated "x" = .ok [.return_ [.name "x"]] :=
    readEvaluated_of_name (by rfl)
  have hopen : Machine.initial.Open := ⟨by decide, by decide, rfl⟩
  have hfields : Value.ofEntries (Value.fields Fixture.host (.mk 1 0 (.dimension 3 4))) =
      .map [("height", .int 4), ("width", .int 3)] := rfl
  have hdimension : dimension.Proper Fixture.host := by
    refine .fields (by decide) ?_
    rw [hfields]
    refine .map (List.pairwise_pair.2 (by decide)) (by decide) ?_
    simp only [List.forall_mem_cons]
    exact ⟨.int 4, .int 3, List.forall_mem_nil _⟩
  have hproper : v.Proper Fixture.host := by
    refine .list (by decide) ?_
    simp only [List.forall_mem_cons]
    exact ⟨.null, hdimension, .list (by decide) (List.forall_mem_nil _), .null,
      List.forall_mem_nil _⟩
  have hleft : Normal Fixture.host dimension (.map [("height", .int 4), ("width", .int 3)]) := by
    refine .fields (by decide) ?_
    rw [hfields]
    refine .map id ?_
    simp only [List.forall_mem_cons]
    exact ⟨.int 4, .int 3, List.forall_mem_nil _⟩
  have hnormal : Normal Fixture.host v w := by
    let norm : Value Fixture.Object → Value Fixture.Object := fun v =>
      if v.kind = "object" then .map [("height", .int 4), ("width", .int 3)]
      else if v.kind = "list" then .map [] else v
    have hw : w = Value.ofItems ([.null, dimension, .list [], .null].map norm) := by
      subst norm w dimension
      rfl
    rw [hw]
    refine .list norm ?_
    simp only [List.forall_mem_cons]
    exact ⟨.null, hleft, .list id (List.forall_mem_nil _), .null, List.forall_mem_nil _⟩
  obtain ⟨w', hone, -, least, hall⟩ :=
    exists_roundTrip TableView.standard_lawful hproper "x" hopen
  obtain rfl : w = w' := (hone w).1 hnormal
  refine ⟨least, fun depth hdepth => ?_⟩
  obtain ⟨m', m'', hset, -, hset', -, heval⟩ := hall depth hdepth
  exact ⟨m', m'', hset, (heval "x" hsource).1, hset', (heval "x" hsource).2⟩

end TextTemplate.Embedded
