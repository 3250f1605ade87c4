import TextTemplate.Fixture.Object
import TextTemplate.Proofs.Placeholder.Selection
import TextTemplate.Proofs.Value.Mapped
set_option autoImplicit false

/-!
# Failure: a method that fails is a method that is missing

A placeholder asks host objects for members, and a method that it asks for may fail.  Then the walk
goes on as if there were no such method: to the other getter, to the next strategy, and if none of
them answers the path leads nowhere.  So no walk tells an object with a failing method from one
without it.  Two hosts that differ in this alone (`Host.IsPruned`) are asked for the same members in
the same order, wherever the objects come from, and the same placeholders are replaced.

What a placeholder is replaced by is up to the value formatter, which is given the value itself and
can do with it what it likes.  A formatter that forms a value without asking its objects for methods
gives the same text (`ValueFormatter.Alike`); one that calls a method of the value sees it fail
(`formatProperties_tells_failed`).
-/

namespace TextTemplate

open Text

variable {ω ω' σ σ' : Type}

/-! ## Hosts without failures -/

namespace Host

/-- The same objects without the methods that fail. -/
def withoutFailures (host : Host ω) : Host ω :=
  { host with call := fun o name => (host.call o name).filter Except.isOk }

/-- For every object `o` of `host` there is the object `g o` of `host'`, with the same text, the
same fields, and those methods of `o` that give a value.  The objects in what fields and methods
give are again such. -/
structure IsPruned (host : Host ω) (host' : Host ω') (g : ω → ω') : Prop where
  display : ∀ o, host'.display (g o) = host.display o
  fieldNames : ∀ o, host'.fieldNames (g o) = host.fieldNames o
  field : ∀ o name, host'.field (g o) name = (host.field o name).map (Value.mapObjects g)
  call_ok : ∀ o name v, host.call o name = some (.ok v) →
    host'.call (g o) name = some (.ok (v.mapObjects g))
  call_none : ∀ o name, (∀ v, host.call o name ≠ some (.ok v)) → host'.call (g o) name = none

/-- The objects of the pruned host have no method that fails. -/
theorem IsPruned.call_ne_error {host : Host ω} {host' : Host ω'} {g : ω → ω'}
    (h : host.IsPruned host' g) (o : ω) (name : String) (e : MemberError) :
    host'.call (g o) name ≠ some (.error e) := by
  by_cases hanswers : ∃ v, host.call o name = some (.ok v)
  · obtain ⟨v, hv⟩ := hanswers
    simp [h.call_ok o name v hv]
  · simp [h.call_none o name (not_exists.1 hanswers)]

theorem isPruned_withoutFailures (host : Host ω) : host.IsPruned host.withoutFailures id := by
  refine ⟨fun o => rfl, fun o => rfl, fun o name => ?_, fun o name v h => ?_, fun o name h => ?_⟩
  · have hid : Value.mapObjects (id : ω → ω) = id := funext Value.mapObjects_id
    rw [hid, Option.map_id]
    rfl
  · simp [withoutFailures, h, Value.mapObjects_id, Except.isOk, Except.toBool]
  · cases hcall : host.call o name with
    | none => simp [withoutFailures, hcall]
    | some answer =>
      cases answer with
      | error e => simp [withoutFailures, hcall, Except.isOk, Except.toBool]
      | ok v => exact absurd hcall (h v)

end Host

/-! ## Members -/

section

variable {host : Host ω} {host' : Host ω'} {g : ω → ω'}

namespace Value

theorem field_mapObjects (h : host.IsPruned host' g) (v : Value ω) (name : String) :
    (v.mapObjects g).field host' name =
      (v.field host name).mapObjects g (Option.map (mapObjects g)) := by
  cases v with
  | list items =>
    rw [mapObjects, mapItems_eq_map, field, field, Logged.mapObjects_pure]
    cases listIndex? name with
    | none => rfl
    | some index => simp only [Option.bind_some, List.getElem?_map]
  | map entries =>
    rw [mapObjects, mapEntries_eq_map, field, field, Logged.mapObjects_pure, Entries.find?_map]
  | object o =>
    rw [mapObjects, field, field, h.field]
    rfl
  | _ => rfl

theorem strMethod?_mapObjects (s name : String) :
    strMethod? s name = (strMethod? s name).map (mapObjects g) := by
  unfold strMethod?
  split <;> rfl

theorem listMethod?_mapObjects (h : host.IsPruned host' g) (items : List (Value ω))
    (name : String) :
    listMethod? host' (items.map (mapObjects g)) name =
      (listMethod? host items name).map (mapObjects g) := by
  have hnull : ∀ v? : Option (Value ω),
      (v?.map (mapObjects g)).getD null = mapObjects g (v?.getD null) :=
    fun v? => Option.getD_map (mapObjects g) null v?
  have hdisplay := display_mapObjects h.display (list items)
  rw [mapObjects, mapItems_eq_map] at hdisplay
  unfold listMethod?
  split <;> simp [hnull, hdisplay, mapObjects]

theorem displayMethod?_mapObjects (h : host.IsPruned host' g) (v : Value ω) (name : String) :
    displayMethod? host' (v.mapObjects g) name =
      (displayMethod? host v name).map (mapObjects g) := by
  unfold displayMethod?
  split
  · rw [display_mapObjects h.display]
    rfl
  · rw [display_mapObjects h.display]
    rfl
  · rfl

theorem intAbs_mapObjects (i : Int64) : intAbs i = (intAbs i).map (mapObjects g) := by
  unfold intAbs
  split <;> rfl

/-- Methods that cannot fail give the same if the values that they give are. -/
theorem map_ok_mapObjects (found : Option (Value ω)) :
    (found.map (mapObjects g)).map (Except.ok : _ → Except MemberError (Value ω')) =
      (found.map Except.ok).map (Except.map (mapObjects g)) := by
  cases found <;> rfl

theorem kindMethod?_mapObjects (h : host.IsPruned host' g) (v : Value ω) (name : String) :
    (v.mapObjects g).kindMethod? host' name =
      (v.kindMethod? host name).map (Except.map (mapObjects g)) := by
  have hdisplay := map_ok_mapObjects (g := g) (displayMethod? host v name)
  rw [← displayMethod?_mapObjects h] at hdisplay
  cases v with
  | str s =>
    rw [mapObjects, kindMethod?, kindMethod?, ← map_ok_mapObjects, ← strMethod?_mapObjects]
  | list items =>
    rw [mapObjects, mapItems_eq_map, kindMethod?, kindMethod?, listMethod?_mapObjects h,
      map_ok_mapObjects]
  | int i =>
    by_cases hname : name = "abs"
    · subst hname
      exact congrArg some (intAbs_mapObjects i)
    · simpa [mapObjects, kindMethod?, hname] using hdisplay
  | float x =>
    by_cases hname : name = "abs"
    · subst hname
      rfl
    · simpa [mapObjects, kindMethod?, hname] using hdisplay
  | _ => exact hdisplay

/-- Of all values but objects a method gives the same, or fails in the same way. -/
theorem call_mapObjects (h : host.IsPruned host' g) {v : Value ω} (hv : ∀ o, v ≠ object o)
    (name : String) :
    (v.mapObjects g).call host' name =
      (v.call host name).mapObjects g (Option.map (Except.map (mapObjects g))) := by
  have hkind := kindMethod?_mapObjects h v name
  cases v with
  | null => rfl
  | object o => exact absurd rfl (hv o)
  | _ => exact congrArg pure hkind

end Value

namespace Strategy

/-- Of an object a method that fails is as good as one that is missing. -/
theorem invoke_object (h : host.IsPruned host' g) (o : ω) (method : String) :
    invoke host' (.object (g o)) method =
      (invoke host (.object o) method).mapObjects g (Option.map (Value.mapObjects g)) := by
  have hcall : host'.call (g o) method = (host.call o method).bind fun answer =>
      answer.toOption.map fun v => .ok (v.mapObjects g) := by
    cases hanswer : host.call o method with
    | none => exact h.call_none o method (by simp [hanswer])
    | some answer =>
      cases answer with
      | error e => exact h.call_none o method (by simp [hanswer])
      | ok v => exact h.call_ok o method v hanswer
  unfold invoke
  rw [Value.call, Value.call, hcall]
  -- The access is recorded before the answer is known, so it is the same in all cases.
  cases host.call o method with
  | none => rfl
  | some answer => cases answer <;> rfl

theorem invoke_mapObjects (h : host.IsPruned host' g) (v : Value ω) (method : String) :
    invoke host' (v.mapObjects g) method =
      (invoke host v method).mapObjects g (Option.map (Value.mapObjects g)) := by
  cases v with
  | object o => exact invoke_object h o method
  | _ =>
    unfold invoke
    rw [Value.call_mapObjects h (by simp)]
    refine Logged.mapObjects_bind g fun answer => ?_
    match answer with
    | none => rfl
    | some (.error e) => rfl
    | some (.ok result) => rfl

/-! ## Strategies and paths -/

/-- What `s'` finds for a value with its objects replaced is what `s` finds for the value. -/
def Follows (g : ω → ω') (s : Strategy ω) (s' : Strategy ω') : Prop :=
  ∀ v name, s'.find (v.mapObjects g) name =
    (s.find v name).mapObjects g (Option.map (Value.mapObjects g))

theorem follows_field (h : host.IsPruned host' g) : Follows g (field host) (field host') :=
  Value.field_mapObjects h

theorem follows_method (h : host.IsPruned host' g) : Follows g (method host) (method host') :=
  invoke_mapObjects h

/-- A failing `get` method leads on to the `is` method. -/
theorem follows_bean (h : host.IsPruned host' g) : Follows g (bean host) (bean host') := by
  intro v name
  unfold bean
  simp only [invoke_mapObjects h]
  refine Logged.mapObjects_bind g fun found => ?_
  cases found with
  | none => rfl
  | some result => rfl

/-- What no strategy finds for a value, none finds for the value with its objects replaced. -/
theorem findFirst_mapObjects {ss : List (Strategy ω)} {ss' : List (Strategy ω')}
    (h : List.Forall₂ (Follows g) ss ss') (v : Value ω) (name : String) :
    findFirst ss' (v.mapObjects g) name =
      (findFirst ss v name).mapObjects g (Option.map (Value.mapObjects g)) := by
  induction h with
  | nil => rfl
  | cons hs hss ih =>
    rw [findFirst, findFirst, hs v name]
    refine Logged.mapObjects_bind g fun found => ?_
    cases found with
    | none => exact ih
    | some result => rfl

end Strategy

theorem Config.follows_strategies (c : Config) (h : host.IsPruned host' g) :
    List.Forall₂ (Strategy.Follows g) (c.strategies host) (c.strategies host') := by
  have henabled : ∀ (enabled : Bool) {s : Strategy ω} {s' : Strategy ω'}, Strategy.Follows g s s' →
      List.Forall₂ (Strategy.Follows g) (if enabled then [s] else [])
        (if enabled then [s'] else []) := by
    intro enabled s s' hs
    cases enabled with
    | false => exact .nil
    | true => exact .cons hs .nil
  have hfield := henabled c.fields (Strategy.follows_field h)
  have hbean := henabled c.beans (Strategy.follows_bean h)
  have hmethod := henabled c.methods (Strategy.follows_method h)
  exact List.rel_append (List.rel_append hfield hbean) hmethod

namespace Path

/-- The same end of a walk with the objects in the value there replaced. -/
def Outcome.mapObjects (g : ω → ω') : Outcome ω → Outcome ω'
  | present v => present (v.mapObjects g)
  | absent => absent
  | missing property => missing property

variable {ss : List (Strategy ω)} {ss' : List (Strategy ω')}

theorem step_mapObjects (h : List.Forall₂ (Strategy.Follows g) ss ss') (v : Value ω)
    (property : String) :
    step ss' (v.mapObjects g) property =
      (step ss v property).mapObjects g (Option.map (Value.mapObjects g)) := by
  unfold step
  split
  · rfl
  · exact Strategy.findFirst_mapObjects h v property

theorem walk_mapObjects (h : List.Forall₂ (Strategy.Follows g) ss ss') (v : Value ω)
    (names : List String) :
    walk ss' (v.mapObjects g) names =
      (walk ss v names).mapObjects g (Outcome.mapObjects g) := by
  induction names generalizing v with
  | nil =>
    rw [walk, walk, Value.isNull_mapObjects, Logged.mapObjects_pure]
    split <;> rfl
  | cons property names ih =>
    rw [walk, walk, Value.isNull_mapObjects]
    split
    · exact ih v
    · rw [step_mapObjects h]
      refine Logged.mapObjects_bind g fun found => ?_
      cases found with
      | none => rfl
      | some next => exact ih next

end Path

/-! ## Placeholders -/

namespace Placeholder

/-- What the formatter is told about where a value comes from. -/
def Span.token (span : Span) : String :=
  match span.content with
  | .direct name => name
  | .dotted _ continuation => continuation

/-- What the name or the path of a placeholder leads to.  A binding is something to lead to even if
it is absent. -/
def Span.lead (span : Span) (ss : List (Strategy ω)) (bindings : Bindings ω) :
    Logged ω (Path.Outcome ω) :=
  match span.content with
  | .direct name =>
    pure (match bindings.get? name with | some v => .present v | none => .missing name)
  | .dotted root continuation =>
    match bindings.get? root with
    | some v => Path.resolve ss v continuation
    | none => pure (.missing root)

theorem Span.lead_mapObjects {ss : List (Strategy ω)} {ss' : List (Strategy ω')}
    (h : List.Forall₂ (Strategy.Follows g) ss ss') (span : Span) (bindings : Bindings ω) :
    span.lead ss' (bindings.mapObjects g) =
      (span.lead ss bindings).mapObjects g (Path.Outcome.mapObjects g) := by
  obtain ⟨content, opening, closing⟩ := span
  cases content with
  | direct name =>
    simp only [lead, Bindings.get?_mapObjects]
    cases bindings.get? name <;> rfl
  | dotted root continuation =>
    simp only [lead, Bindings.get?_mapObjects]
    cases bindings.get? root with
    | none => rfl
    | some v => exact Path.walk_mapObjects h v (Path.names continuation)

/-- What becomes of a placeholder that leads to the outcome, its value being formed by `form`. -/
def resolutionOf (form : Value ω → String) : Path.Outcome ω → Resolution
  | .present v => .resolved (form v)
  | .absent => .resolvedNull
  | .missing _ => .unresolved

theorem Resolver.resolve_eq_lead (r : Resolver ω) (bindings : Bindings ω) (span : Span) :
    r.resolve bindings span =
      ⟨(span.lead r.strategies bindings).events,
        resolutionOf (fun v => r.format span.token v r.nullString)
          (span.lead r.strategies bindings).result⟩ := by
  obtain ⟨content, opening, closing⟩ := span
  cases content with
  | direct name =>
    simp only [resolve, Span.lead, Span.token]
    cases bindings.get? name <;> rfl
  | dotted root continuation =>
    simp only [resolve, Span.lead, Span.token]
    cases bindings.get? root with
    | none => rfl
    | some v =>
      dsimp only
      obtain ⟨events, outcome⟩ := Path.resolve r.strategies v continuation
      cases outcome <;> exact congrArg (Logged.mk · _) (List.append_nil events)

/-- A replaced placeholder and the value that the formatter is given for it.  There is none if the
path of the placeholder ends at the absent value. -/
structure Filled (ω : Type) where
  span : Span
  value? : Option (Value ω)

namespace Filled

/-- What the placeholder leads to. -/
def outcome (p : Filled ω) : Path.Outcome ω :=
  match p.value? with
  | some v => .present v
  | none => .absent

/-- What takes the place of the placeholder. -/
def replacement (r : Resolver ω) (p : Filled ω) : Replacement :=
  ⟨p.span, match p.value? with
    | some v => r.format p.span.token v r.nullString
    | none => ""⟩

/-- The same placeholder with the objects in its value replaced. -/
def mapObjects (g : ω → ω') (p : Filled ω) : Filled ω' := ⟨p.span, p.value?.map (·.mapObjects g)⟩

end Filled

variable {r : Resolver ω} {r' : Resolver ω'}

/-- Where the strategies of `r'` follow those of `r`, the same placeholders are replaced on behalf
of the same values, and the same members are asked for on the way. -/
theorem exists_filled (h : List.Forall₂ (Strategy.Follows g) r.strategies r'.strategies)
    (bindings : Bindings ω) (copied : Nat) (spans : List Span) :
    ∃ filled : List (Filled ω),
      leftmost (r.fate bindings) copied spans = filled.map (Filled.replacement r) ∧
      leftmost (r'.fate (bindings.mapObjects g)) copied spans =
        filled.map (fun p => (p.mapObjects g).replacement r') ∧
      (∀ p ∈ filled, (p.span.lead r.strategies bindings).result = p.outcome) ∧
      (r'.select (bindings.mapObjects g) copied spans).events =
        (r.select bindings copied spans).events.map (Event.mapObjects g) := by
  induction spans generalizing copied with
  | nil => exact ⟨[], rfl, rfl, by simp, rfl⟩
  | cons span spans ih =>
    simp only [leftmost, Resolver.select, Resolver.fate]
    split
    · exact ih copied
    · simp only [Resolver.resolve_eq_lead, Span.lead_mapObjects h, Logged.bind_events,
        Logged.mapObjects, List.map_append]
      cases hlead : (span.lead r.strategies bindings).result with
      | missing property =>
        obtain ⟨filled, hleftmost, hleftmost', hleads, hevents⟩ := ih copied
        exact ⟨filled, hleftmost, hleftmost', hleads, congrArg (_ ++ ·) hevents⟩
      | absent =>
        obtain ⟨filled, hleftmost, hleftmost', hleads, hevents⟩ := ih span.stop
        refine ⟨⟨span, none⟩ :: filled, congrArg (_ :: ·) hleftmost, congrArg (_ :: ·) hleftmost',
          List.forall_mem_cons.2 ⟨hlead, hleads⟩, congrArg (_ ++ ·) ?_⟩
        simp only [Path.Outcome.mapObjects, resolutionOf, Resolution.replacement?,
          Logged.bind_events, Logged.pure_events, List.append_nil, hevents]
      | present v =>
        obtain ⟨filled, hleftmost, hleftmost', hleads, hevents⟩ := ih span.stop
        refine ⟨⟨span, some v⟩ :: filled, congrArg (_ :: ·) hleftmost,
          congrArg (_ :: ·) hleftmost', List.forall_mem_cons.2 ⟨hlead, hleads⟩,
          congrArg (_ ++ ·) ?_⟩
        simp only [Path.Outcome.mapObjects, resolutionOf, Resolution.replacement?,
          Logged.bind_events, Logged.pure_events, List.append_nil, hevents]

end Placeholder

end

/-! ## Value formatters -/

namespace ValueFormatter

/-- `form'` forms a value with its objects replaced as `form` forms the value. -/
def Alike (g : ω → ω') (form : ValueFormatter ω) (form' : ValueFormatter ω') : Prop :=
  ∀ token v nullString, form' token (v.mapObjects g) nullString = form token v nullString

variable {host : Host ω} {host' : Host ω'} {g : ω → ω'}

/-- The text of a value is made without calling a method. -/
theorem alike_display (h : host.IsPruned host' g) : (display host).Alike g (display host') :=
  fun _ v nullString => Value.textOr_mapObjects h.display nullString v

end ValueFormatter

/-! ## Main statement -/

namespace Placeholder

theorem Filled.replacement_mapObjects {r : Resolver ω} {r' : Resolver ω'} {g : ω → ω'}
    {p : Filled ω} (hnull : r'.nullString = r.nullString)
    (hform : ∀ v ∈ p.value?, r'.format p.span.token (v.mapObjects g) r.nullString =
      r.format p.span.token v r.nullString) :
    (p.mapObjects g).replacement r' = p.replacement r := by
  obtain ⟨span, value?⟩ := p
  cases value? with
  | none => rfl
  | some v => simp only [mapObjects, replacement, Option.map_some, hnull, hform v rfl]

/-- The first pass does not tell a method that fails from one that is missing.  All objects in the
bindings, and all that come out of their members, may be replaced by objects without the failing
methods, of which none fails.  Whatever the value formatter is, the first pass has an answer for
both, makes the same accesses in the same order, but for going to the other objects, and replaces
the same placeholders, on behalf of the same values, but for the other objects in them.  So the text
is the same if the formatter forms these alike, and it does if it gives every value its text. -/
theorem formatProperties_of_pruned {host : Host ω} {host' : Host ω'} {g : ω → ω'}
    (h : host.IsPruned host' g) (f : Formatter ω σ) (f' : Formatter ω' σ')
    (hconfig : f'.config = f.config) (template : String) (bindings : Bindings ω) :
    (∀ o name e, host'.call (g o) name ≠ some (.error e)) ∧
    (ValueFormatter.display host).Alike g (ValueFormatter.display host') ∧
    ∃ (found : List Span) (filled : List (Filled ω)) (rendered : Logged ω String)
      (rendered' : Logged ω' String),
      FirstPass f host template bindings found
        (filled.map (Filled.replacement (f.resolver host))) rendered ∧
      FirstPass f' host' template (bindings.mapObjects g) found
        (filled.map fun p => (p.mapObjects g).replacement (f'.resolver host')) rendered' ∧
      (∀ p ∈ filled, (p.span.lead (f.config.strategies host) bindings).result = p.outcome) ∧
      rendered'.events = rendered.events.map (Event.mapObjects g) ∧
      ((∀ p ∈ filled, ∀ v ∈ p.value?,
        f'.format p.span.token (v.mapObjects g) f.config.nullString =
          f.format p.span.token v f.config.nullString) → rendered'.result = rendered.result) := by
  have hstrategies : List.Forall₂ (Strategy.Follows g) (f.resolver host).strategies
      (f'.resolver host').strategies := by
    simp only [Formatter.resolver, hconfig]
    exact f.config.follows_strategies h
  obtain ⟨found, text, -, hpass⟩ := exists_firstPass f host template bindings
  obtain ⟨found', text', -, hpass'⟩ := exists_firstPass f' host' template (bindings.mapObjects g)
  obtain rfl : found = found' := Except.ok.inj (hpass.spans_eq.symm.trans hpass'.spans_eq)
  obtain ⟨filled, hleftmost, hleftmost', hleads, hevents⟩ :=
    exists_filled hstrategies bindings 0 found
  rw [hleftmost] at hpass
  rw [hleftmost'] at hpass'
  refine ⟨h.call_ne_error, ValueFormatter.alike_display h, found, filled, _, _, hpass, hpass',
    hleads, hevents, fun hform => ?_⟩
  have hnull : (f'.resolver host').nullString = (f.resolver host).nullString :=
    congrArg Config.nullString hconfig
  rw [List.map_congr_left fun p hp => Filled.replacement_mapObjects hnull (hform p hp)] at hpass'
  exact hpass.result_eq hpass'

/-- The getter of `v` fails and the method of that name answers; no way leads to `w`. -/
theorem formatProperties_of_pruned_getters :
    let o : Fixture.Object := .prepared 0 "o" []
      [("getV", .failed "no v"), ("v", .ok (.int 1)), ("getW", .failed "no w")]
    let f : Formatter Fixture.Object Unit := Formatter.default Fixture.host
    let f' : Formatter Fixture.Object Unit := Formatter.default Fixture.host.withoutFailures
    let template := "$\x7bo.w\x7d $\x7bo.v\x7d"
    let bindings := Bindings.ofList [("o", .object o)]
    let events : List (Event Fixture.Object) :=
      [.access (.field o "w"), .access (.call o "getW"), .access (.call o "isW"),
        .access (.call o "w"), .access (.field o "v"), .access (.call o "getV"),
        .access (.call o "isV"), .access (.call o "v")]
    Fixture.host.IsPruned Fixture.host.withoutFailures id ∧ f'.config = f.config ∧
      f.format.Alike id f'.format ∧
      f.formatProperties Fixture.host template bindings = .ok ⟨events, "$\x7bo.w\x7d 1"⟩ ∧
      f'.formatProperties Fixture.host.withoutFailures template bindings =
        .ok ⟨events, "$\x7bo.w\x7d 1"⟩ := by
  intro o f f' template bindings events
  have hpruned := Fixture.host.isPruned_withoutFailures
  have hrun : f.formatProperties Fixture.host template bindings =
      .ok ⟨events, "$\x7bo.w\x7d 1"⟩ := by
    subst o f template bindings events
    rfl
  obtain ⟨-, halike, found, filled, rendered, ⟨events', text'⟩, hpass, hpass', -, hevents, htext⟩ :=
    formatProperties_of_pruned hpruned f f' rfl template bindings
  obtain rfl := Except.ok.inj (hrun.symm.trans hpass.answer_eq)
  have hid : Event.mapObjects (id : Fixture.Object → Fixture.Object) = id :=
    funext Event.mapObjects_id
  rw [hid, List.map_id] at hevents
  rw [Bindings.mapObjects_id] at hpass'
  obtain rfl : events' = events := hevents
  obtain rfl : text' = "$\x7bo.w\x7d 1" := htext fun p _ v _ =>
    halike p.span.token v f.config.nullString
  exact ⟨hpruned, rfl, halike, hrun, hpass'.answer_eq⟩

/-- Forms a value by what comes of calling a method of it. -/
def pinging (host : Host ω) : ValueFormatter ω := fun _ v _ =>
  match (v.call host "ping").result with
  | none => "missing"
  | some (.error _) => "failed"
  | some (.ok _) => "answered"

/-- Two objects, of which `true` has a method that fails and `false` has none. -/
def faulty : Host Bool where
  display _ := "o"
  fieldNames _ := []
  field _ _ := none
  call o name := if o && name == "ping" then some (.error (.failed name "down")) else none

/-- A formatter that calls a method of the value it is given tells the object with the failing
method from the one without it. -/
theorem formatProperties_tells_failed :
    let f : Formatter Bool Unit := ⟨{}, pinging faulty, none⟩
    let bindings := Bindings.ofList [("o", .object true)]
    faulty.IsPruned faulty (fun _ => false) ∧
      f.formatProperties faulty "$\x7bo\x7d" bindings = .ok ⟨[], "failed"⟩ ∧
      f.formatProperties faulty "$\x7bo\x7d" (bindings.mapObjects fun _ => false) =
        .ok ⟨[], "missing"⟩ := by
  refine ⟨⟨fun o => rfl, fun o => rfl, fun o name => rfl, fun o name v h => ?_,
    fun o name h => rfl⟩, by rfl, by rfl⟩
  simp [faulty] at h

end Placeholder

end TextTemplate
