import TextTemplate.Fixture.Object
import TextTemplate.Path
set_option autoImplicit false

/-!
# Walk: where a path leads

`Ends` says where the walk along the names of a path ends, without carrying it out: before the first
name that is reached with a present value and leads nowhere, at an absent value on the way, or at
the present value behind the last name.  Every path ends in one of these ways and in no other
(`ends_iff`).  A path that is put together from two paths is the first one and then, from the value
that it leads to, the second (`resolve_append`).
-/

namespace TextTemplate

/-! ## The names of a path -/

namespace Text

variable {sep : Char} {t : Text}

theorem split_ne_nil (sep : Char) (t : Text) : split sep t ≠ [] := by
  cases t with
  | nil => exact List.cons_ne_nil _ _
  | cons c t =>
    unfold split
    split
    · exact List.cons_ne_nil _ _
    · split <;> exact List.cons_ne_nil _ _

/-- A text is cut at every separator, so at the one between two texts, too. -/
theorem split_append (sep : Char) (s t : Text) :
    split sep (s ++ sep :: t) = split sep s ++ split sep t := by
  induction s with
  | nil => simp [split]
  | cons c s ih =>
    rw [List.cons_append, split, split, ih]
    split
    · rfl
    · cases hs : split sep s with
      | nil => exact absurd hs (split_ne_nil sep s)
      | cons piece pieces => rfl

theorem split_of_notMem (h : sep ∉ t) : split sep t = [t] := by
  induction t with
  | nil => rfl
  | cons c t ih =>
    obtain ⟨hc, ht⟩ := List.ne_and_not_mem_of_not_mem_cons h
    rw [split, if_neg (Ne.symm hc), ih ht]

end Text

namespace Path

theorem names_append (p q : String) : names (p ++ "." ++ q) = names p ++ names q := by
  have htext : (p ++ "." ++ q).toList = p.toList ++ '.' :: q.toList := by simp
  rw [names, htext, Text.split_append, List.map_append]
  rfl

theorem names_of_notMem {key : String} (h : '.' ∉ key.toList) : names key = [key] := by
  rw [names, Text.split_of_notMem h, List.map_singleton, String.ofList_toList]

/-- Names without dots make up one path. -/
theorem names_intercalate {key : String} {keys : List String}
    (h : ∀ k ∈ key :: keys, '.' ∉ k.toList) :
    names (".".intercalate (key :: keys)) = key :: keys := by
  induction keys generalizing key with
  | nil => rw [String.intercalate_singleton, names_of_notMem (h key List.mem_cons_self)]
  | cons key' keys ih =>
    obtain ⟨hkey, hkeys⟩ := List.forall_mem_cons.1 h
    rw [String.intercalate_cons_cons, names_append, names_of_notMem hkey, ih hkeys]
    rfl

end Path

variable {ω : Type} {ss : List (Strategy ω)}

/-! ## The first strategy with an answer -/

namespace Strategy

/-- The first of `ss` that has an answer finds `next`. -/
inductive Finds (ss : List (Strategy ω)) (v : Value ω) (property : String) (next : Value ω) :
    Prop where
  | intro {before after : List (Strategy ω)} {s : Strategy ω} (split : ss = before ++ s :: after)
      (answer : (s.find v property).result = some next)
      (others : ∀ t ∈ before, (t.find v property).result = none) : Finds ss v property next

theorem findFirst_result (ss : List (Strategy ω)) (v : Value ω) (property : String) :
    (findFirst ss v property).result = ss.findSome? fun s => (s.find v property).result := by
  induction ss with
  | nil => rfl
  | cons s ss ih =>
    rw [findFirst, Logged.bind_result, List.findSome?_cons]
    cases (s.find v property).result with
    | none => exact ih
    | some found => rfl

theorem finds_iff {v next : Value ω} {property : String} :
    Finds ss v property next ↔ (findFirst ss v property).result = some next := by
  rw [findFirst_result, List.findSome?_eq_some_iff]
  constructor
  · rintro ⟨split, answer, others⟩
    exact ⟨_, _, _, split, answer, others⟩
  · rintro ⟨before, s, after, split, answer, others⟩
    exact .intro split answer others

theorem Finds.unique {v next next' : Value ω} {property : String} (h : Finds ss v property next)
    (h' : Finds ss v property next') : next = next' :=
  Option.some.inj ((finds_iff.1 h).symm.trans (finds_iff.1 h'))

end Strategy

namespace Path

open Strategy (Finds)

variable {v w : Value ω} {property : String} {before properties : List String}

/-! ## Where a walk ends -/

/-- Following the names, each of a member of the value before it, one comes from `v` to `w`. -/
inductive Leads (ss : List (Strategy ω)) : Value ω → List String → Value ω → Prop where
  | here (v : Value ω) : Leads ss v [] v
  | step {v next w : Value ω} {property : String} {rest : List String}
      (present : v.isNull = false) (named : property ≠ "") (found : Finds ss v property next)
      (tail : Leads ss next rest w) : Leads ss v (property :: rest) w

/-- The name leads nowhere: the value is present, and the name is empty or no strategy has an
answer. -/
structure Stuck (ss : List (Strategy ω)) (v : Value ω) (property : String) : Prop where
  present : v.isNull = false
  missed : property = "" ∨ ∀ s ∈ ss, (s.find v property).result = none

/-- The walk from `v` along the given names is stuck at `property`, the one after `before`. -/
inductive StuckAt (ss : List (Strategy ω)) (v : Value ω) (properties before : List String)
    (property : String) : Prop where
  | intro {rest : List String} {w : Value ω} (split : properties = before ++ property :: rest)
      (leads : Leads ss v before w) (stuck : Stuck ss w property) :
      StuckAt ss v properties before property

/-- Where the walk from `v` along the given names ends. -/
inductive Ends (ss : List (Strategy ω)) (v : Value ω) (properties : List String) :
    Outcome ω → Prop where
  | missing {before : List String} {property : String}
      (stuck : StuckAt ss v properties before property) : Ends ss v properties (.missing property)
  | absent {before rest : List String} {w : Value ω} (split : properties = before ++ rest)
      (leads : Leads ss v before w) (null : w.isNull = true) : Ends ss v properties .absent
  | present {w : Value ω} (leads : Leads ss v properties w) (present : w.isNull = false) :
      Ends ss v properties (.present w)

/-- From the absent value on, names are no longer looked at. -/
theorem walk_of_isNull (h : v.isNull = true) (properties : List String) :
    walk ss v properties = pure .absent := by
  induction properties with
  | nil => rw [walk, if_pos h]
  | cons property properties ih => rw [walk, if_pos h, ih]

theorem walk_nil_of_present (h : v.isNull = false) : walk ss v [] = pure (.present v) := by
  rw [walk, h]
  rfl

theorem walk_cons_of_present (h : v.isNull = false) (property : String)
    (properties : List String) :
    walk ss v (property :: properties) = do
      match ← step ss v property with
      | some next => walk ss next properties
      | none => return .missing property := by
  rw [walk, h]
  rfl

theorem step_result_of_finds {next : Value ω} (hnamed : property ≠ "")
    (h : Finds ss v property next) : (step ss v property).result = some next := by
  rw [step, if_neg (by simpa using hnamed)]
  exact Strategy.finds_iff.1 h

theorem Stuck.step_result (h : Stuck ss v property) : (step ss v property).result = none := by
  unfold step
  split
  · rfl
  · next hnamed =>
    have hnone := h.missed.resolve_left (by simpa using hnamed)
    rw [Strategy.findFirst_result, List.findSome?_eq_none_iff]
    exact hnone

theorem Stuck.walk_result (h : Stuck ss v property) (rest : List String) :
    (walk ss v (property :: rest)).result = .missing property := by
  rw [walk_cons_of_present h.present, Logged.bind_result, h.step_result]
  rfl

/-- A walk along names that lead to a value goes on from there. -/
theorem Leads.walk_result (h : Leads ss v before w) (rest : List String) :
    (walk ss v (before ++ rest)).result = (walk ss w rest).result := by
  induction h with
  | here v => rfl
  | step present named found tail ih =>
    rw [List.cons_append, walk_cons_of_present present, Logged.bind_result,
      step_result_of_finds named found]
    exact ih

/-- A walk that a member is found for ends where the walk from the member does. -/
theorem Ends.cons {next : Value ω} {outcome : Outcome ω} (hpresent : v.isNull = false)
    (hnamed : property ≠ "") (hfound : Finds ss v property next)
    (h : Ends ss next properties outcome) : Ends ss v (property :: properties) outcome := by
  cases h with
  | missing stuck =>
    obtain ⟨split, leads, stuck⟩ := stuck
    exact .missing (.intro (congrArg (property :: ·) split)
      (.step hpresent hnamed hfound leads) stuck)
  | absent split leads null =>
    exact .absent (congrArg (property :: ·) split) (.step hpresent hnamed hfound leads) null
  | present leads present => exact .present (.step hpresent hnamed hfound leads) present

theorem Ends.of_isNull (h : v.isNull = true) (properties : List String) :
    Ends ss v properties .absent :=
  .absent (List.nil_append _).symm (.here v) h

theorem Ends.of_stuck (h : Stuck ss v property) (properties : List String) :
    Ends ss v (property :: properties) (.missing property) :=
  .missing (.intro (List.nil_append _).symm (.here v) h)

/-- Every walk ends in one of three ways. -/
theorem exists_ends (ss : List (Strategy ω)) (v : Value ω) (properties : List String) :
    ∃ outcome, Ends ss v properties outcome := by
  induction properties generalizing v with
  | nil =>
    cases hv : v.isNull with
    | true => exact ⟨_, .of_isNull hv []⟩
    | false => exact ⟨_, .present (.here v) hv⟩
  | cons property properties ih =>
    cases hv : v.isNull with
    | true => exact ⟨_, .of_isNull hv _⟩
    | false =>
      by_cases hnamed : property = ""
      · exact ⟨_, .of_stuck ⟨hv, .inl hnamed⟩ properties⟩
      · cases hfound : (Strategy.findFirst ss v property).result with
        | none =>
          rw [Strategy.findFirst_result, List.findSome?_eq_none_iff] at hfound
          exact ⟨_, .of_stuck ⟨hv, .inr hfound⟩ properties⟩
        | some next =>
          obtain ⟨outcome, hends⟩ := ih next
          exact ⟨outcome, hends.cons hv hnamed (Strategy.finds_iff.2 hfound)⟩

theorem Ends.walk_result {outcome : Outcome ω} (h : Ends ss v properties outcome) :
    (walk ss v properties).result = outcome := by
  cases h with
  | missing stuck =>
    obtain ⟨split, leads, stuck⟩ := stuck
    rw [split, leads.walk_result, stuck.walk_result]
  | absent split leads null =>
    rw [split, leads.walk_result, walk_of_isNull null]
    rfl
  | present leads present =>
    have hwalk := leads.walk_result []
    rw [List.append_nil, walk_nil_of_present present] at hwalk
    exact hwalk

/-- A walk gives the end that it has. -/
theorem ends_iff {outcome : Outcome ω} :
    Ends ss v properties outcome ↔ (walk ss v properties).result = outcome := by
  constructor
  · exact Ends.walk_result
  · intro h
    obtain ⟨other, hends⟩ := exists_ends ss v properties
    rwa [← h, hends.walk_result]

theorem Stuck.not_finds {next : Value ω} (h : Stuck ss v property) (hnamed : property ≠ "") :
    ¬ Finds ss v property next := by
  rintro ⟨rfl, answer, -⟩
  have hnone := h.missed.resolve_left hnamed _ (List.mem_append_right _ List.mem_cons_self)
  rw [answer] at hnone
  cases hnone

/-- A walk is stuck at one name only, so the one that it names is the first. -/
theorem StuckAt.unique {before' : List String} {property' : String}
    (h : StuckAt ss v properties before property)
    (h' : StuckAt ss v properties before' property') :
    before = before' ∧ property = property' := by
  obtain ⟨rfl, leads, stuck⟩ := h
  obtain ⟨split', leads', stuck'⟩ := h'
  induction leads generalizing before' with
  | here v =>
    cases leads' with
    | here =>
      obtain ⟨rfl, -⟩ := List.cons.inj split'
      exact ⟨rfl, rfl⟩
    | step present named found tail =>
      obtain ⟨rfl, -⟩ := List.cons.inj split'
      exact absurd found (stuck.not_finds named)
  | step present named found tail ih =>
    cases leads' with
    | here =>
      obtain ⟨rfl, -⟩ := List.cons.inj split'
      exact absurd found (stuck'.not_finds named)
    | step present' named' found' tail' =>
      obtain ⟨rfl, hrest⟩ := List.cons.inj split'
      obtain rfl := found.unique found'
      obtain ⟨rfl, rfl⟩ := ih stuck hrest tail'
      exact ⟨rfl, rfl⟩

/-! ## Paths put together -/

/-- Names are walked along one after the other, as long as they lead to present values. -/
theorem walk_append (ss : List (Strategy ω)) (v : Value ω) (properties rest : List String) :
    walk ss v (properties ++ rest) = do
      match ← walk ss v properties with
      | .present w => walk ss w rest
      | .absent => return .absent
      | .missing property => return .missing property := by
  induction properties generalizing v with
  | nil =>
    cases hv : v.isNull with
    | true => rw [List.nil_append, walk_of_isNull hv, walk_of_isNull hv, pure_bind]
    | false => rw [List.nil_append, walk_nil_of_present hv, pure_bind]
  | cons property properties ih =>
    cases hv : v.isNull with
    | true => rw [walk_of_isNull hv, walk_of_isNull hv, pure_bind]
    | false =>
      rw [List.cons_append, walk_cons_of_present hv, walk_cons_of_present hv, bind_assoc]
      refine bind_congr fun found => ?_
      cases found with
      | none => rw [pure_bind]
      | some next => exact ih next

/-- Of a path that is put together from two, the first is walked along, and then, from the value
that it leads to, the second; where the first leads to no present value, its end is the end of both.
Every path ends in the one way that its names allow, and no path is stuck at more than one name. -/
theorem resolve_append (ss : List (Strategy ω)) (root : Value ω) :
    (∀ p q : String, resolve ss root (p ++ "." ++ q) = do
      match ← resolve ss root p with
      | .present v => resolve ss v q
      | .absent => return .absent
      | .missing property => return .missing property) ∧
    (∀ (path : String) (outcome : Outcome ω),
      (resolve ss root path).result = outcome ↔ Ends ss root (names path) outcome) ∧
    ∀ (path : String) (before before' : List String) (property property' : String),
      StuckAt ss root (names path) before property →
      StuckAt ss root (names path) before' property' → before = before' ∧ property = property' := by
  refine ⟨?_, ?_, ?_⟩
  · intro p q
    unfold resolve
    rw [names_append]
    exact walk_append ss root (names p) (names q)
  · intro path outcome
    exact ends_iff.symm
  · intro path before before' property property' h h'
    exact h.unique h'

/-- An empty name ends a walk, but not behind an absent value. -/
theorem resolve_append_empty_name :
    let root : Value Fixture.Object := .map [("a", .null), ("b", .map [])]
    let ss := [Strategy.field Fixture.host]
    (resolve ss root ("a" ++ "." ++ ".c")).result = .absent ∧
      (resolve ss root "b..c").result = .missing "" ∧
      StuckAt ss root (names "b..c") ["b"] "" ∧
      ∀ before property, StuckAt ss root (names "b..c") before property →
        before = ["b"] ∧ property = "" := by
  intro root ss
  obtain ⟨happend, hends, hunique⟩ := resolve_append ss root
  have hstuck : StuckAt ss root (names "b..c") ["b"] "" := by
    have hleads : Leads ss root ["b"] (.map []) := by
      apply Leads.step rfl (by decide) _ (.here _)
      exact Strategy.finds_iff.2 rfl
    exact .intro rfl hleads ⟨rfl, .inl rfl⟩
  refine ⟨?_, ?_, hstuck, ?_⟩
  · rw [happend]
    rfl
  · exact (hends "b..c" (.missing "")).2 (.missing hstuck)
  · intro before property h
    exact hunique "b..c" before ["b"] property "" h hstuck

end Path

end TextTemplate
