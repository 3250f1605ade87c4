import TextTemplate.Proofs.Entries
import TextTemplate.Proofs.Placeholder.Access
set_option autoImplicit false

/-!
# TextForm: asking for the text of a value

Every value but the absent one and objects answers the methods `to_string` and `toString` with its
text, whatever other methods its kind has, and the text so answered is a value that answers them
with itself.  The strategies that come before the one for methods have no answer to these names,
except for a map that has one of them as a key.  A path of such names, however long, is therefore
replaced by what the binding alone is replaced by (`formatProperties_textMethods`).
-/

namespace TextTemplate

open Text

variable {ω σ : Type} {host : Host ω} {m : String} {v : Value ω}

/-! ## The methods that answer the text -/

/-- Each kind of values has these methods in its own table. -/
theorem Value.kindMethod?_textMethod (hm : m = "to_string" ∨ m = "toString") :
    v.kindMethod? host m = some (.ok (.str (v.display host))) := by
  rcases hm with rfl | rfl <;> cases v <;> rfl

theorem Value.call_textMethod (hpresent : v.isNull = false) (hobject : ∀ o, v ≠ .object o)
    (hm : m = "to_string" ∨ m = "toString") :
    v.call host m = pure (some (.ok (.str (v.display host)))) := by
  cases v with
  | null => cases hpresent
  | object o => exact absurd rfl (hobject o)
  | _ => exact congrArg pure (kindMethod?_textMethod hm)

/-- A list has no position of that name, and a map has the field only as a key. -/
theorem Value.field_textMethod (hobject : ∀ o, v ≠ .object o)
    (hm : m = "to_string" ∨ m = "toString")
    (hkey : ¬ ∃ es, v = .map es ∧ m ∈ Entries.keys es) : v.field host m = pure none := by
  have hindex : listIndex? m = none := by
    rcases hm with rfl | rfl <;> rfl
  cases v with
  | map es =>
    have hm' : m ∉ Entries.keys es := fun h => hkey ⟨es, rfl, h⟩
    rw [field, Entries.find?_eq_none_of_not_mem hm']
  | list items => rw [field, hindex, Option.bind_none]
  | object o => exact absurd rfl (hobject o)
  | _ => rfl

namespace Strategy

/-- There is no getter for the text. -/
theorem bean_textMethod (hobject : ∀ o, v ≠ .object o) (hm : m = "to_string" ∨ m = "toString") :
    (bean host).find v m = pure none := by
  cases v with
  | object o => exact absurd rfl (hobject o)
  | _ => rcases hm with rfl | rfl <;> rfl

theorem method_textMethod (hpresent : v.isNull = false) (hobject : ∀ o, v ≠ .object o)
    (hm : m = "to_string" ∨ m = "toString") :
    (method host).find v m = pure (some (.str (v.display host))) := by
  change invoke host v m = _
  rw [invoke, Value.call_textMethod hpresent hobject hm]
  rfl

/-- A strategy that is not enabled or has no answer leaves it to the next ones. -/
theorem findFirst_enabled_append {s : Strategy ω} {enabled : Bool}
    (h : enabled = true → s.find v m = pure none) (ss : List (Strategy ω)) :
    findFirst ((if enabled then [s] else []) ++ ss) v m = findFirst ss v m := by
  cases enabled with
  | false => rfl
  | true =>
    rw [if_pos rfl, List.singleton_append, findFirst, h rfl]
    rfl

end Strategy

namespace Path

variable {c : Config}

/-- One name: the text of the value. -/
theorem step_textMethod (hpresent : v.isNull = false) (hobject : ∀ o, v ≠ .object o)
    (hmethods : c.methods = true) (hm : m = "to_string" ∨ m = "toString")
    (hkey : ¬ (c.fields = true ∧ ∃ es, v = .map es ∧ m ∈ Entries.keys es)) :
    step (c.strategies host) v m = pure (some (.str (v.display host))) := by
  have hnamed : ¬ m.isEmpty = true := by
    rcases hm with rfl | rfl <;> decide
  have hfield : c.fields = true → (Strategy.field host).find v m = pure none :=
    fun hfields => Value.field_textMethod hobject hm fun h => hkey ⟨hfields, h⟩
  have hbean : c.beans = true → (Strategy.bean host).find v m = pure none :=
    fun _ => Strategy.bean_textMethod hobject hm
  rw [step, if_neg hnamed, Config.strategies, List.append_assoc,
    Strategy.findFirst_enabled_append hfield, Strategy.findFirst_enabled_append hbean, hmethods,
    if_pos rfl, Strategy.findFirst_singleton, Strategy.method_textMethod hpresent hobject hm]

/-- Any number of names: still the text of the value, which answers itself. -/
theorem walk_textMethods {ms : List String} (hpresent : v.isNull = false)
    (hobject : ∀ o, v ≠ .object o) (hmethods : c.methods = true)
    (hms : ∀ m' ∈ m :: ms, m' = "to_string" ∨ m' = "toString")
    (hkey : ¬ (c.fields = true ∧ ∃ es, v = .map es ∧ m ∈ Entries.keys es)) :
    walk (c.strategies host) v (m :: ms) = pure (.present (.str (v.display host))) := by
  induction ms generalizing v m with
  | nil =>
    rw [walk_cons_of_present hpresent,
      step_textMethod hpresent hobject hmethods (hms m List.mem_cons_self) hkey]
    rfl
  | cons m' ms ih =>
    obtain ⟨hm, hms'⟩ := List.forall_mem_cons.1 hms
    rw [walk_cons_of_present hpresent, step_textMethod hpresent hobject hmethods hm hkey, pure_bind]
    refine ih rfl (fun o h => ?_) hms' ?_
    · cases h
    · rintro ⟨-, es, h, -⟩
      cases h

end Path

namespace Placeholder

/-! ## A template that is one placeholder -/

theorem Resolver.select_of_passed {r : Resolver ω} {bindings : Bindings ω} {copied : Nat}
    {found : List Span} (h : ∀ span ∈ found, span.opening < copied) :
    r.select bindings copied found = pure [] := by
  induction found with
  | nil => rfl
  | cons span found ih =>
    obtain ⟨hspan, hfound⟩ := List.forall_mem_cons.1 h
    rw [select, if_pos hspan, ih hfound]

/-- A template that is one placeholder from end to end is rendered as the text that the placeholder
resolves to, whatever other placeholders open inside it. -/
theorem formatProperties_of_whole {f : Formatter ω σ} {template text : String}
    {bindings : Bindings ω} {span : Span} {events : List (Event ω)}
    (hoccurs : Occurs template.toList span) (hopening : span.opening = 0)
    (hstop : span.stop = byteSize template.toList)
    (hresolve : (f.resolver host).resolve bindings span = ⟨events, .resolved text⟩) :
    f.formatProperties host template bindings = .ok ⟨events, text⟩ := by
  obtain ⟨found, hspans, hsorted, hmem⟩ := exists_spans template.toList
  -- It opens first, and all others open before it ends.
  obtain ⟨others, rfl⟩ : ∃ others, found = span :: others := by
    cases found with
    | nil => exact absurd ((hmem span).2 hoccurs) List.not_mem_nil
    | cons first others =>
      rcases List.mem_cons.1 ((hmem span).2 hoccurs) with rfl | hother
      · exact ⟨others, rfl⟩
      · have hlt := List.rel_of_pairwise_cons hsorted hother
        omega
  have hothers : ∀ other ∈ others, other.opening < span.stop := by
    intro other hother
    have hoccurs' := (hmem other).1 (List.mem_cons_of_mem _ hother)
    rw [hstop]
    exact Nat.lt_of_lt_of_le hoccurs'.opening_lt_stop hoccurs'.isBoundary_stop.le_byteSize
  have hselect : (f.resolver host).select bindings 0 (span :: others) =
      ⟨events, [⟨0, span.stop, text.toList⟩]⟩ := by
    rw [Resolver.select, if_neg (Nat.not_lt_zero _), hresolve]
    simp only [Resolution.replacement?, Resolver.select_of_passed hothers, pure_bind, hopening]
    exact congrArg (Logged.mk · _) (List.append_nil events)
  have hspliced : Spliced template.toList 0
      ((f.resolver host).select bindings 0 (span :: others)).result ([] ++ text.toList ++ []) := by
    rw [hselect]
    have hend : Spliced template.toList span.stop [] [] :=
      .done (List.append_nil _).symm hstop.symm
    exact .edit (rfl : template.toList = [] ++ [] ++ template.toList) byteSize_nil rfl hend
  rw [formatProperties_eq_of_spliced hspans hspliced, hselect, List.nil_append, List.append_nil,
    String.ofList_toList]

theorem formatProperties_placeholder {f : Formatter ω σ} {bindings : Bindings ω}
    {content text : String} {c : Content} {events : List (Event ω)}
    (hunclosed : '}' ∉ content.toList) (hspells : Spells content.toList c)
    (hresolve : ∀ span, span.content = c →
      (f.resolver host).resolve bindings span = ⟨events, .resolved text⟩) :
    f.formatProperties host ("$\x7b" ++ content ++ "\x7d") bindings = .ok ⟨events, text⟩ := by
  have htext : ("$\x7b" ++ content ++ "\x7d").toList =
      [] ++ openMarker ++ content.toList ++ closeMarker ++ [] := by
    simp [openMarker, closeMarker]
  have hoccurs : Occurs ("$\x7b" ++ content ++ "\x7d").toList
      ⟨c, 0, 0 + 2 + byteSize content.toList⟩ := by
    rw [htext, occurs_iff_spells hunclosed rfl]
    exact ⟨rfl, hspells⟩
  refine formatProperties_of_whole hoccurs rfl ?_ (hresolve _ rfl)
  simp only [htext, Span.stop, byteSize_append, byteSize_openMarker, byteSize_closeMarker,
    byteSize_nil]

/-! ## Templates with one path -/

/-- A dotted path has no close marker if none of its names has one. -/
theorem close_notMem_intercalate {key : String} {keys : List String}
    (h : ∀ k ∈ key :: keys, '}' ∉ k.toList) : '}' ∉ (".".intercalate (key :: keys)).toList := by
  induction keys generalizing key with
  | nil =>
    rw [String.intercalate_singleton]
    exact h key List.mem_cons_self
  | cons key' keys ih =>
    obtain ⟨hkey, hkeys⟩ := List.forall_mem_cons.1 h
    rw [String.intercalate_cons_cons, String.toList_append, String.toList_append]
    simp only [List.mem_append, not_or]
    exact ⟨⟨hkey, by decide⟩, ih hkeys⟩

theorem spells_name {name : String} (hnamed : name ≠ "") (hundotted : '.' ∉ name.toList) :
    Spells name.toList (.direct name) := by
  have hspells := Spells.direct (mt String.toList_eq_nil_iff.1 hnamed) hundotted
  rwa [String.ofList_toList] at hspells

/-- Names with dots between them ask for the path of all of them but the first. -/
theorem spells_intercalate {name : String} {ms : List String} (hnamed : name ≠ "")
    (hundotted : '.' ∉ name.toList) (hm : m ≠ "") (hms : ∀ m' ∈ m :: ms, '.' ∉ m'.toList) :
    Spells (".".intercalate (name :: m :: ms)).toList
      (.dotted name (".".intercalate (m :: ms))) := by
  have hcontinuation : (".".intercalate (m :: ms)).toList ≠ [] := by
    intro hempty
    have hnames := Path.names_intercalate hms
    rw [String.toList_eq_nil_iff.1 hempty] at hnames
    exact hm (List.cons.inj hnames).1.symm
  have hspells :=
    Spells.dotted (mt String.toList_eq_nil_iff.1 hnamed) hundotted hcontinuation
  rw [String.ofList_toList, String.ofList_toList] at hspells
  rw [String.intercalate_cons_cons, String.toList_append, String.toList_append,
    List.append_assoc]
  exact hspells

section

variable {c : Config} {factory : Option (Script.Factory ω σ)} {bindings : Bindings ω}
  {name : String}

/-- A binding alone is replaced by its text. -/
theorem formatProperties_name (hnamed : name ≠ "") (hundotted : '.' ∉ name.toList)
    (hunclosed : '}' ∉ name.toList) (hbound : bindings.get? name = some v)
    (hpresent : v.isNull = false) :
    (⟨c, ValueFormatter.display host, factory⟩ : Formatter ω σ).formatProperties host
      ("$\x7b" ++ name ++ "\x7d") bindings = .ok ⟨[], v.display host⟩ := by
  refine formatProperties_placeholder hunclosed (spells_name hnamed hundotted) fun span hspan => ?_
  simp only [Resolver.resolve, hspan, hbound]
  exact congrArg (fun text => pure (Resolution.resolved text))
    (Value.textOr_of_present hpresent c.nullString)

/-- A path that leads to a text is replaced by it. -/
theorem formatProperties_path {text : String} {ms : List String} (hnamed : name ≠ "")
    (hundotted : '.' ∉ name.toList) (hunclosed : '}' ∉ name.toList) (hm : m ≠ "")
    (hms : ∀ m' ∈ m :: ms, '.' ∉ m'.toList ∧ '}' ∉ m'.toList)
    (hbound : bindings.get? name = some v)
    (hwalk : Path.walk (c.strategies host) v (m :: ms) = pure (.present (.str text))) :
    (⟨c, ValueFormatter.display host, factory⟩ : Formatter ω σ).formatProperties host
      ("$\x7b" ++ ".".intercalate (name :: m :: ms) ++ "\x7d") bindings = .ok ⟨[], text⟩ := by
  have hundotted' : ∀ m' ∈ m :: ms, '.' ∉ m'.toList := fun m' hm' => (hms m' hm').1
  have hunclosed' : ∀ k ∈ name :: m :: ms, '}' ∉ k.toList :=
    List.forall_mem_cons.2 ⟨hunclosed, fun m' hm' => (hms m' hm').2⟩
  refine formatProperties_placeholder (close_notMem_intercalate hunclosed')
    (spells_intercalate hnamed hundotted hm hundotted') fun span hspan => ?_
  simp only [Resolver.resolve, Formatter.resolver, hspan, hbound, Path.resolve,
    Path.names_intercalate hundotted', hwalk, pure_bind]
  rfl

end

/-! ## Main statement -/

/-- A binding of any nesting, neither absent nor an object, under a name that can stand in a
placeholder: wherever methods are enabled, its placeholder is replaced by its text, and so is every
path from it that asks for the text once or more times, under either name each time.  The one
exception is a map that has the first of these names as a key while fields are enabled.  Without
it, the two templates are rendered alike, with whatever script sections the text contains. -/
theorem formatProperties_textMethods (c : Config) (host : Host ω)
    (factory : Option (Script.Factory ω σ)) {bindings : Bindings ω} {name : String} {v : Value ω}
    (hnamed : name ≠ "") (hundotted : '.' ∉ name.toList) (hunclosed : '}' ∉ name.toList)
    (hbound : bindings.get? name = some v) (hpresent : v.isNull = false)
    (hobject : ∀ o, v ≠ .object o) (hmethods : c.methods = true) :
    let f : Formatter ω σ := ⟨c, ValueFormatter.display host, factory⟩
    let direct := "$\x7b" ++ name ++ "\x7d"
    f.formatProperties host direct bindings = .ok ⟨[], v.display host⟩ ∧
      ∀ (m : String) (ms : List String), (∀ m' ∈ m :: ms, m' = "to_string" ∨ m' = "toString") →
        ¬ (c.fields = true ∧ ∃ es, v = .map es ∧ m ∈ Entries.keys es) →
        let dotted := "$\x7b" ++ ".".intercalate (name :: m :: ms) ++ "\x7d"
        f.formatProperties host dotted bindings = .ok ⟨[], v.display host⟩ ∧
          f.render host dotted bindings = f.render host direct bindings := by
  intro f direct
  have hdirect : f.formatProperties host direct bindings = .ok ⟨[], v.display host⟩ :=
    formatProperties_name hnamed hundotted hunclosed hbound hpresent
  refine ⟨hdirect, fun m ms hms hkey => ?_⟩
  intro dotted
  have hmarks : ∀ m' ∈ m :: ms, '.' ∉ m'.toList ∧ '}' ∉ m'.toList := by
    intro m' hm'
    rcases hms m' hm' with rfl | rfl <;> decide
  have hm : m ≠ "" := by
    rcases hms m List.mem_cons_self with rfl | rfl <;> decide
  have hwalk : Path.walk (c.strategies host) v (m :: ms) =
      pure (.present (.str (v.display host))) :=
    Path.walk_textMethods hpresent hobject hmethods hms hkey
  have hdotted : f.formatProperties host dotted bindings = .ok ⟨[], v.display host⟩ :=
    formatProperties_path hnamed hundotted hunclosed hm hmarks hbound hwalk
  have henabled : f.config.propertyAccessEnabled = true := by
    rw [Config.propertyAccessEnabled, hmethods, Bool.or_true]
  refine ⟨hdotted, ?_⟩
  simp only [Formatter.render, henabled, if_true, hdirect, hdotted]

/-- A map in a list, under a name in which another placeholder seems to open.  The map itself is
not asked for its text if it has an entry of that name. -/
theorem formatProperties_textMethods_nested :
    let f : Formatter Fixture.Object Unit := .default Fixture.host
    let bindings : Bindings Fixture.Object :=
      Bindings.ofList [("a$\x7bm", .list [.map [("toString", .null)], .str "x"])]
    f.formatProperties Fixture.host "$\x7ba$\x7bm.to_string.toString.toString\x7d" bindings =
        .ok ⟨[], "[\x7btoString=null\x7d, x]"⟩ ∧
      f.render Fixture.host "$\x7ba$\x7bm.toString\x7d" bindings =
        f.render Fixture.host "$\x7ba$\x7bm\x7d" bindings := by
  intro f bindings
  have hbound : bindings.get? "a$\x7bm" = some (.list [.map [("toString", .null)], .str "x"]) := rfl
  obtain ⟨-, hpaths⟩ := formatProperties_textMethods (σ := Unit) {} Fixture.host none (by decide)
    (by decide) (by decide) hbound rfl (by simp) rfl
  exact ⟨(hpaths "to_string" ["toString", "toString"] (by decide) (by simp)).1,
    (hpaths "toString" [] (by decide) (by simp)).2⟩

example :
    (Formatter.default Fixture.host : Formatter Fixture.Object Unit).formatProperties Fixture.host
        "$\x7bm.toString\x7d, $\x7bm.to_string\x7d"
        (Bindings.ofList [("m", .map [("toString", .int 3)])]) =
      .ok ⟨[], "3, \x7btoString=3\x7d"⟩ := by
  rfl

end Placeholder

end TextTemplate
