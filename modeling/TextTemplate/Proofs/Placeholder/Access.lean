import TextTemplate.Fixture.Object
import TextTemplate.Proofs.Path.Walk
import TextTemplate.Proofs.Placeholder.Selection
set_option autoImplicit false

/-!
# Access: which members of host objects are asked for

Only objects are asked for members, and an object is asked for one member after the other until one
answers: its field, its getters, its method, as far as these are enabled (`Config.attempts`).  A
walk asks the objects that it comes to (`Path.touched`), and the first pass walks the paths of just
those placeholders that do not open inside a replaced one (`formatProperties_accesses`).
-/

namespace TextTemplate

variable {ω σ : Type} {host : Host ω}

/-! ## Attempts -/

/-- The value that an access gives.  A method that fails gives none. -/
def Access.answer? (host : Host ω) : Access ω → Option (Value ω)
  | field o name => host.field o name
  | call o name => (host.call o name).bind Except.toOption

/-- The name of a getter: `start`, and the property with its first character in upper case. -/
def getterName (start property : String) : String :=
  match property.toList with
  | [] => start
  | c :: cs => String.ofList (start.toList ++ Unicode.upperChar c ++ cs)

theorem append_capitalize (start property : String) :
    start ++ Unicode.capitalize property = getterName start property := by
  unfold Unicode.capitalize getterName
  cases property.toList with
  | nil => exact String.append_empty
  | cons c cs =>
    simp only [String.ofList_append, String.ofList_toList, String.append_assoc]

/-- What an object may be asked for on behalf of a name, in order. -/
def Config.attempts (c : Config) (o : ω) (property : String) : List (Access ω) :=
  (if c.fields then [.field o property] else [])
    ++ (if c.beans then [.call o (getterName "get" property), .call o (getterName "is" property)]
      else [])
    ++ (if c.methods then [.call o property] else [])

namespace Access

/-- The attempts up to the first one that gives a value, which may be the absent one. -/
def untilAnswered (host : Host ω) : List (Access ω) → List (Access ω)
  | [] => []
  | a :: attempts => a :: if (a.answer? host).isSome then [] else untilAnswered host attempts

/-- Makes the attempts up to the first one that gives a value. -/
def tryEach (host : Host ω) (attempts : List (Access ω)) : Logged ω (Option (Value ω)) :=
  ⟨(untilAnswered host attempts).map .access, attempts.findSome? (answer? host)⟩

theorem tryEach_cons (a : Access ω) (attempts : List (Access ω)) :
    tryEach host (a :: attempts) = do
      Logged.record (.access a)
      match a.answer? host with
      | none => tryEach host attempts
      | some found => return some found := by
  unfold tryEach
  rw [untilAnswered, List.findSome?_cons]
  cases a.answer? host <;> rfl

/-- Attempts are made one after the other, as long as none gives a value. -/
theorem tryEach_append (attempts more : List (Access ω)) :
    tryEach host (attempts ++ more) = do
      match ← tryEach host attempts with
      | none => tryEach host more
      | some found => return some found := by
  induction attempts with
  | nil => rfl
  | cons a attempts ih =>
    rw [List.cons_append, tryEach_cons, tryEach_cons, bind_assoc]
    refine bind_congr fun _ => ?_
    cases a.answer? host with
    | none => exact ih
    | some found => rw [pure_bind]

end Access

/-! ## Strategies -/

namespace Strategy

open Access (tryEach)

theorem invoke_object_eq (o : ω) (method : String) :
    invoke host (.object o) method = tryEach host [.call o method] := by
  unfold invoke
  rw [Value.call, Access.tryEach_cons, bind_assoc]
  refine bind_congr fun _ => ?_
  rw [pure_bind, Access.answer?]
  match host.call o method with
  | none => rfl
  | some (.error e) => rfl
  | some (.ok found) => rfl

theorem field_object (o : ω) (property : String) :
    (field host).find (.object o) property = tryEach host [.field o property] := by
  rw [Access.tryEach_cons, Access.answer?]
  change (do Logged.record _; return host.field o property) = _
  refine bind_congr fun _ => ?_
  cases host.field o property <;> rfl

theorem bean_object (o : ω) (property : String) :
    (bean host).find (.object o) property =
      tryEach host [.call o (getterName "get" property), .call o (getterName "is" property)] := by
  rw [← List.singleton_append, Access.tryEach_append, ← invoke_object_eq, ← invoke_object_eq,
    ← append_capitalize, ← append_capitalize]
  refine bind_congr fun found => ?_
  cases found <;> rfl

theorem method_object (o : ω) (property : String) :
    (method host).find (.object o) property = tryEach host [.call o property] :=
  invoke_object_eq o property

theorem findFirst_append (ss ss' : List (Strategy ω)) (v : Value ω) (property : String) :
    findFirst (ss ++ ss') v property = do
      match ← findFirst ss v property with
      | none => findFirst ss' v property
      | some found => return some found := by
  induction ss with
  | nil => rfl
  | cons s ss ih =>
    rw [List.cons_append, findFirst, findFirst, bind_assoc]
    refine bind_congr fun found => ?_
    cases found with
    | none => exact ih
    | some found => rw [pure_bind]

theorem findFirst_singleton (s : Strategy ω) (v : Value ω) (property : String) :
    findFirst [s] v property = s.find v property := by
  rw [findFirst]
  refine (bind_congr fun found => ?_).trans (bind_pure _)
  cases found <;> rfl

/-- A strategy that makes its attempts, if it is enabled, makes all of them or none. -/
theorem findFirst_enabled {s : Strategy ω} {v : Value ω} {property : String}
    {attempts : List (Access ω)} (h : s.find v property = tryEach host attempts) (enabled : Bool) :
    findFirst (if enabled then [s] else []) v property =
      tryEach host (if enabled then attempts else []) := by
  cases enabled with
  | false => rfl
  | true => rw [if_pos rfl, if_pos rfl, findFirst_singleton, h]

/-- Of an object the enabled strategies make the attempts of the settings. -/
theorem findFirst_object (c : Config) (o : ω) (property : String) :
    findFirst (c.strategies host) (.object o) property = tryEach host (c.attempts o property) := by
  rw [Config.strategies, Config.attempts, findFirst_append, findFirst_append,
    findFirst_enabled (field_object o property), findFirst_enabled (bean_object o property),
    findFirst_enabled (method_object o property), Access.tryEach_append, Access.tryEach_append]

section

variable {v : Value ω}

theorem field_events_of_ne_object (hv : ∀ o, v ≠ .object o) (property : String) :
    ((field host).find v property).events = [] := by
  cases v with
  | object o => exact absurd rfl (hv o)
  | _ => rfl

theorem call_events_of_ne_object (hv : ∀ o, v ≠ .object o) (method : String) :
    (v.call host method).events = [] := by
  unfold Value.call
  split
  · rfl
  · next o => exact absurd rfl (hv o)
  · rfl

theorem invoke_events_of_ne_object (hv : ∀ o, v ≠ .object o) (method : String) :
    (invoke host v method).events = [] := by
  rw [invoke, Logged.bind_events, call_events_of_ne_object hv]
  split <;> rfl

theorem bean_events_of_ne_object (hv : ∀ o, v ≠ .object o) (property : String) :
    ((bean host).find v property).events = [] := by
  unfold bean
  rw [Logged.bind_events, invoke_events_of_ne_object hv]
  split
  · rfl
  · exact invoke_events_of_ne_object hv _

theorem findFirst_events_of_silent {ss : List (Strategy ω)} {property : String}
    (h : ∀ s ∈ ss, (s.find v property).events = []) : (findFirst ss v property).events = [] := by
  induction ss with
  | nil => rfl
  | cons s ss ih =>
    obtain ⟨hs, hss⟩ := List.forall_mem_cons.1 h
    rw [findFirst, Logged.bind_events, hs]
    split
    · rfl
    · exact ih hss

/-- Values other than objects are not asked for anything. -/
theorem findFirst_events_of_ne_object (c : Config) (hv : ∀ o, v ≠ .object o) (property : String) :
    (findFirst (c.strategies host) v property).events = [] := by
  apply findFirst_events_of_silent
  intro s hs
  have hcases : s = field host ∨ s = bean host ∨ s = method host := by
    unfold Config.strategies at hs
    grind
  rcases hcases with rfl | rfl | rfl
  · exact field_events_of_ne_object hv property
  · exact bean_events_of_ne_object hv property
  · exact invoke_events_of_ne_object hv property

end

end Strategy

/-! ## Walks -/

namespace Path

/-- The member that a name denotes. -/
def member? (c : Config) (host : Host ω) : Value ω → String → Option (Value ω)
  | .object o, property => (c.attempts o property).findSome? (Access.answer? host)
  | v, property => (Strategy.findFirst (c.strategies host) v property).result

/-- The accesses that looking for the member makes: an object is asked until it answers, and no
other value is asked for anything. -/
def accessesAt (c : Config) (host : Host ω) : Value ω → String → List (Access ω)
  | .object o, property => Access.untilAnswered host (c.attempts o property)
  | _, _ => []

/-- The accesses that a walk makes: those for each name, up to the first one that is empty or leads
nowhere, and none from an absent value on. -/
def touched (c : Config) (host : Host ω) : Value ω → List String → List (Access ω)
  | _, [] => []
  | v, property :: properties =>
    if v.isNull || property.isEmpty then []
    else accessesAt c host v property ++
      match member? c host v property with
      | none => []
      | some next => touched c host next properties

theorem findFirst_events (c : Config) (v : Value ω) (property : String) :
    (Strategy.findFirst (c.strategies host) v property).events =
      (accessesAt c host v property).map .access := by
  cases v with
  | object o => rw [Strategy.findFirst_object]; rfl
  | _ => exact Strategy.findFirst_events_of_ne_object c (by simp) property

theorem findFirst_result_eq_member? (c : Config) (v : Value ω) (property : String) :
    (Strategy.findFirst (c.strategies host) v property).result = member? c host v property := by
  cases v with
  | object o => rw [Strategy.findFirst_object]; rfl
  | _ => rfl

theorem walk_events (c : Config) (v : Value ω) (properties : List String) :
    (walk (c.strategies host) v properties).events =
      (touched c host v properties).map .access := by
  induction properties generalizing v with
  | nil => rfl
  | cons property properties ih =>
    rw [touched]
    cases hv : v.isNull with
    | true =>
      rw [walk_of_isNull hv]
      rfl
    | false =>
      rw [walk_cons_of_present hv, Logged.bind_events, step]
      cases hnamed : property.isEmpty with
      | true => rfl
      | false =>
        simp only [Bool.or_self, Bool.false_eq_true, if_false]
        rw [findFirst_events, findFirst_result_eq_member?, List.map_append]
        cases member? c host v property with
        | none => rfl
        | some next => rw [ih next]

end Path

/-! ## Placeholders -/

namespace Placeholder

open Text

/-- Does the placeholder open inside a replaced one? -/
def Replacement.covers (r : Replacement) (span : Span) : Bool :=
  r.span.opening < span.opening && span.opening < r.span.stop

/-- The accesses that a placeholder makes: those of the walk along its path, if it has one and its
root is bound. -/
def Span.touched (span : Span) (c : Config) (host : Host ω) (bindings : Bindings ω) :
    List (Access ω) :=
  match span.content with
  | .direct _ => []
  | .dotted root continuation =>
    match bindings.get? root with
    | none => []
    | some v => Path.touched c host v (Path.names continuation)

theorem resolve_events (f : Formatter ω σ) (bindings : Bindings ω) (span : Span) :
    ((f.resolver host).resolve bindings span).events =
      (span.touched f.config host bindings).map .access := by
  obtain ⟨content, opening, closing⟩ := span
  cases content with
  | direct name =>
    simp only [Resolver.resolve, Span.touched]
    cases bindings.get? name <;> rfl
  | dotted root continuation =>
    cases hroot : bindings.get? root with
    | none =>
      simp only [Resolver.resolve, Span.touched, hroot]
      rfl
    | some v =>
      simp only [Resolver.resolve, Span.touched, hroot]
      rw [Logged.bind_events, Path.resolve, Formatter.resolver, Path.walk_events]
      split <;> exact List.append_nil _

section

variable {fate : Span → Resolution} {copied : Nat} {span : Span} {spans : List Span}

/-- A placeholder does not open inside those after it. -/
theorem not_covers_of_later (h : ∀ t ∈ spans, span.opening < t.opening) :
    (leftmost fate copied spans).any (·.covers span) = false := by
  rw [List.any_eq_false]
  intro r hr hcovers
  have hlater := h r.span (span_mem_of_mem_leftmost hr)
  unfold Replacement.covers at hcovers
  simp only [Bool.and_eq_true, decide_eq_true_eq] at hcovers
  omega

/-- Of the placeholders after a replaced one, those that do not open inside it are left. -/
theorem not_covers_cons {text : String} {t : Span} {selected : List Replacement}
    (hle : copied ≤ span.opening) (h : span.opening < t.opening) :
    (copied ≤ t.opening && !((⟨span, text⟩ : Replacement) :: selected).any (·.covers t)) =
      (span.stop ≤ t.opening && !selected.any (·.covers t)) := by
  have hcopied : copied ≤ t.opening := by omega
  have hcovers : Replacement.covers ⟨span, text⟩ t = !decide (span.stop ≤ t.opening) := by
    rw [Replacement.covers, decide_eq_true h, Bool.true_and, ← decide_not]
    simp only [Nat.not_le]
  rw [List.any_cons, hcovers, decide_eq_true hcopied, Bool.true_and, Bool.not_or, Bool.not_not]

end

/-- Every placeholder that does not open inside a replaced one is resolved, once and in order. -/
theorem Resolver.select_events (r : Resolver ω) (bindings : Bindings ω) (copied : Nat)
    {spans : List Span} (hsorted : spans.Pairwise (fun a b => a.opening < b.opening)) :
    (r.select bindings copied spans).events =
      (spans.filter fun span => copied ≤ span.opening &&
        !(leftmost (r.fate bindings) copied spans).any (·.covers span)).flatMap
        fun span => (r.resolve bindings span).events := by
  induction spans generalizing copied with
  | nil => rfl
  | cons span spans ih =>
    obtain ⟨hlater, hrest⟩ := List.pairwise_cons.1 hsorted
    by_cases hlt : span.opening < copied
    · rw [select, if_pos hlt, leftmost_cons_of_passed (.inl hlt), ih copied hrest,
        List.filter_cons_of_neg (by simp [Nat.not_le.2 hlt])]
    · have hle : copied ≤ span.opening := Nat.not_lt.1 hlt
      rw [select, if_neg hlt, Logged.bind_events]
      cases hreplacement : (r.resolve bindings span).result.replacement? with
      | none =>
        have hunresolved := Resolution.replacement?_eq_none_iff.1 hreplacement
        rw [leftmost_cons_of_passed (.inr hunresolved), List.filter_cons_of_pos
          (by simp [hle, not_covers_of_later hlater]), List.flatMap_cons]
        exact congrArg (_ ++ ·) (ih copied hrest)
      | some text =>
        have hfilter : (spans.filter fun t => copied ≤ t.opening &&
            !((⟨span, text⟩ : Replacement) :: leftmost (r.fate bindings) span.stop spans).any
              (·.covers t)) =
            spans.filter fun t => span.stop ≤ t.opening &&
              !(leftmost (r.fate bindings) span.stop spans).any (·.covers t) :=
          List.filter_congr fun t ht => not_covers_cons hle (hlater t ht)
        have hopen : Replacement.covers ⟨span, text⟩ span = false := by
          simp [Replacement.covers]
        rw [leftmost_cons_of_taken hle hreplacement, List.filter_cons_of_pos
          (by simp [hle, hopen, not_covers_of_later hlater]), hfilter, List.flatMap_cons,
          ← ih span.stop hrest]
        exact congrArg (_ ++ ·) (List.append_nil _)

/-- The members that the first pass asks for are those that the paths of the placeholders lead to,
one placeholder after the other, for all that do not open inside a replaced one. -/
theorem formatProperties_accesses (f : Formatter ω σ) (host : Host ω) (template : String)
    (bindings : Bindings ω) :
    ∃ found selected rendered, spans template.toList = .ok found ∧
      f.formatProperties host template bindings = .ok rendered ∧
      Selection ((f.resolver host).fate bindings) found selected ∧
      Spliced template.toList 0 (selected.map Replacement.edit) rendered.result.toList ∧
      rendered.events = ((found.filter fun span => !selected.any (·.covers span)).flatMap
        fun span => span.touched f.config host bindings).map .access := by
  obtain ⟨found, text, hsorted, hpass⟩ := exists_firstPass f host template bindings
  refine ⟨found, _, _, hpass.spans_eq, hpass.answer_eq, hpass.selection, hpass.spliced, ?_⟩
  rw [Resolver.select_events _ _ _ hsorted, List.map_flatMap]
  simp only [resolve_events, Nat.zero_le, decide_true, Bool.true_and]

/-- The first getter fails and the second one is missing, so that the method of the name itself is
called.  The upper-case form of one character may be two, and a getter that gives the absent value
has given one. -/
theorem formatProperties_accesses_getters :
    let o : Fixture.Object := .prepared 0 "o" []
      [("getWidth", .failed "no width"), ("isSS", .ok .null), ("width", .ok (.int 3))]
    let f : Formatter Fixture.Object Unit := Formatter.default Fixture.host
    let template := "$\x7bo.width\x7d, $\x7bo.ß\x7d"
    let bindings := Bindings.ofList [("o", .object o)]
    let accesses : List (Access Fixture.Object) :=
      [.field o "width", .call o "getWidth", .call o "isWidth", .call o "width",
        .field o "ß", .call o "getSS", .call o "isSS"]
    f.formatProperties Fixture.host template bindings = .ok ⟨accesses.map .access, "3, "⟩ ∧
      ∃ found selected, spans template.toList = .ok found ∧
        Selection ((f.resolver Fixture.host).fate bindings) found selected ∧
        Spliced template.toList 0 (selected.map Replacement.edit) "3, ".toList ∧
        accesses.map Event.access =
          ((found.filter fun span => !selected.any (·.covers span)).flatMap
            fun span => span.touched f.config Fixture.host bindings).map .access := by
  intro o f template bindings accesses
  have hrun : f.formatProperties Fixture.host template bindings =
      .ok ⟨accesses.map .access, "3, "⟩ := by
    subst o f template bindings accesses
    rfl
  obtain ⟨found, selected, rendered, hspans, hrendered, hselection, hspliced, hevents⟩ :=
    formatProperties_accesses f Fixture.host template bindings
  obtain rfl := Except.ok.inj (hrun.symm.trans hrendered)
  exact ⟨hrun, found, selected, hspans, hselection, hspliced, hevents⟩

end Placeholder

end TextTemplate
