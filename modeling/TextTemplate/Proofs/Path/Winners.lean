import Mathlib.Data.List.FinRange
import TextTemplate.Fixture.Object
import TextTemplate.Formatter
import TextTemplate.Proofs.Path.Walk
set_option autoImplicit false

/-!
# Winners: which strategies a walk depends on

At each name that a walk comes to, one strategy supplies the next value or none does; those that do
are the winners of the walk.  A strategy that is tried and has no answer, or that stands behind a
winner, makes no difference: any of the strategies that are no winners can be left out
(`resolve_of_winners_kept`).  Strategies are told apart by labels, since one that stands in a list
twice can win in one place and not in the other.
-/

namespace TextTemplate

variable {ω σ ι : Type}

namespace Path

/-- Of the strategies with the given labels, the first that has an answer, and its answer. -/
def winner? (strategy : ι → Strategy ω) (labels : List ι) (v : Value ω) (property : String) :
    Option (ι × Value ω) :=
  labels.findSome? fun i => ((strategy i).find v property).result.map (i, ·)

/-- The labels of the strategies that supply the values on the way along the given names. -/
def winners (strategy : ι → Strategy ω) (labels : List ι) : Value ω → List String → List ι
  | _, [] => []
  | v, property :: properties =>
    if v.isNull || property.isEmpty then []
    else match winner? strategy labels v property with
      | none => []
      | some (i, next) => i :: winners strategy labels next properties

section

variable {strategy : ι → Strategy ω} {labels kept : List ι} {v next : Value ω} {property : String}

theorem findFirst_map_result (strategy : ι → Strategy ω) (labels : List ι) (v : Value ω)
    (property : String) :
    (Strategy.findFirst (labels.map strategy) v property).result =
      (winner? strategy labels v property).map Prod.snd := by
  rw [Strategy.findFirst_result, winner?, List.findSome?_map, List.map_findSome?]
  congr 1
  funext i
  cases h : ((strategy i).find v property).result <;> simp [h]

/-- Among some of the strategies the winner is the same, if it is one of them. -/
theorem winner?_of_sublist {i : ι} (hnodup : labels.Nodup) (hsub : kept.Sublist labels)
    (h : winner? strategy labels v property = some (i, next)) (hkept : i ∈ kept) :
    winner? strategy kept v property = some (i, next) := by
  obtain ⟨before, j, after, rfl, hanswer, hothers⟩ := List.findSome?_eq_some_iff.1 h
  obtain ⟨answer, hfind, hpair⟩ := Option.map_eq_some_iff.1 hanswer
  obtain ⟨rfl, rfl⟩ := Prod.mk.inj hpair
  obtain ⟨kept, kept', rfl, hbefore, htail⟩ := List.sublist_append_iff.1 hsub
  rcases List.sublist_cons_iff.1 htail with hafter | ⟨rest, rfl, -⟩
  · -- The winner would have to stand before or behind itself.
    have hmem := (hbefore.append hafter).subset hkept
    exact absurd hmem (List.nodup_cons.1 (List.nodup_middle.1 hnodup)).1
  · apply List.findSome?_eq_some_iff.2
    exact ⟨kept, j, rest, rfl, hanswer, fun k hk => hothers k (hbefore.subset hk)⟩

theorem winner?_eq_none_of_sublist (hsub : kept.Sublist labels)
    (h : winner? strategy labels v property = none) :
    winner? strategy kept v property = none := by
  apply List.findSome?_eq_none_iff.2
  intro i hi
  exact List.findSome?_eq_none_iff.1 h i (hsub.subset hi)

theorem mem_of_winner?_eq_some {i : ι} (h : winner? strategy labels v property = some (i, next)) :
    i ∈ labels := by
  obtain ⟨j, hj, hanswer⟩ := List.exists_of_findSome?_eq_some h
  obtain ⟨answer, -, hpair⟩ := Option.map_eq_some_iff.1 hanswer
  obtain ⟨rfl, -⟩ := Prod.mk.inj hpair
  exact hj

theorem mem_of_mem_winners {i : ι} {properties : List String}
    (h : i ∈ winners strategy labels v properties) : i ∈ labels := by
  induction properties generalizing v with
  | nil => cases h
  | cons property properties ih =>
    rw [winners] at h
    split at h
    · cases h
    · split at h
      · cases h
      · next j next hwinner =>
        rcases List.mem_cons.1 h with rfl | h
        · exact mem_of_winner?_eq_some hwinner
        · exact ih h

/-- A walk ends in the same way with some of the strategies, if the winners are among them. -/
theorem walk_result_of_kept (hnodup : labels.Nodup) (hsub : kept.Sublist labels)
    {properties : List String} (h : ∀ i ∈ winners strategy labels v properties, i ∈ kept) :
    (walk (kept.map strategy) v properties).result =
      (walk (labels.map strategy) v properties).result := by
  induction properties generalizing v with
  | nil => rfl
  | cons property properties ih =>
    cases hv : v.isNull with
    | true => rw [walk_of_isNull hv, walk_of_isNull hv]
    | false =>
      rw [walk_cons_of_present hv, walk_cons_of_present hv, Logged.bind_result,
        Logged.bind_result, step, step]
      cases hnamed : property.isEmpty with
      | true => rfl
      | false =>
        simp only [Bool.false_eq_true, if_false, findFirst_map_result]
        rw [winners, hv, hnamed] at h
        cases hwinner : winner? strategy labels v property with
        | none =>
          rw [winner?_eq_none_of_sublist hsub hwinner]
          rfl
        | some win =>
          obtain ⟨i, next⟩ := win
          simp only [hwinner, Bool.or_self, Bool.false_eq_true, if_false] at h
          obtain ⟨hi, hrest⟩ := List.forall_mem_cons.1 h
          rw [winner?_of_sublist hnodup hsub hwinner hi]
          exact ih hrest

end

end Path

/-! ## Toggles -/

/-- A setting that enables a strategy. -/
inductive Toggle where
  | fields
  | beans
  | methods
  deriving DecidableEq, Repr, Inhabited

/-- The strategy that a setting enables. -/
def Toggle.strategy (host : Host ω) : Toggle → Strategy ω
  | fields => .field host
  | beans => .bean host
  | methods => .method host

namespace Config

/-- Is the setting on? -/
def enabled (c : Config) : Toggle → Bool
  | .fields => c.fields
  | .beans => c.beans
  | .methods => c.methods

/-- The settings that are on, in the order of their strategies. -/
def toggles (c : Config) : List Toggle := [Toggle.fields, .beans, .methods].filter c.enabled

/-- The same settings with one of them off. -/
def disable (c : Config) : Toggle → Config
  | .fields => { c with fields := false }
  | .beans => { c with beans := false }
  | .methods => { c with methods := false }

theorem strategies_eq_map (c : Config) (host : Host ω) :
    c.strategies host = c.toggles.map (Toggle.strategy host) := by
  unfold strategies toggles
  cases hf : c.fields <;> cases hb : c.beans <;> cases hm : c.methods <;>
    simp [enabled, hf, hb, hm, Toggle.strategy]

theorem nodup_toggles (c : Config) : c.toggles.Nodup := by
  apply List.Nodup.filter
  decide

theorem enabled_disable (c : Config) (t u : Toggle) :
    (c.disable t).enabled u = (decide (u ≠ t) && c.enabled u) := by
  cases t <;> cases u <;> simp [disable, enabled]

theorem toggles_disable (c : Config) (t : Toggle) :
    (c.disable t).toggles = c.toggles.filter (· ≠ t) := by
  unfold toggles
  rw [List.filter_filter, funext (enabled_disable c t)]

theorem nullString_disable (c : Config) (t : Toggle) :
    (c.disable t).nullString = c.nullString := by
  cases t <;> rfl

end Config

namespace Placeholder

/-- The settings whose strategies supply the values on the way along the path of a placeholder. -/
def Span.winners (span : Span) (c : Config) (host : Host ω) (bindings : Bindings ω) :
    List Toggle :=
  match span.content with
  | .direct _ => []
  | .dotted root continuation =>
    match bindings.get? root with
    | none => []
    | some v => Path.winners (Toggle.strategy host) c.toggles v (Path.names continuation)

/-- A placeholder is resolved in the same way without a strategy that does not win on its path. -/
theorem resolve_result_of_disable (f : Formatter ω σ) {host : Host ω} {bindings : Bindings ω}
    {span : Span} {t : Toggle} (h : t ∉ span.winners f.config host bindings) :
    ((({ f with config := f.config.disable t } : Formatter ω σ).resolver host).resolve
      bindings span).result = ((f.resolver host).resolve bindings span).result := by
  obtain ⟨content, opening, closing⟩ := span
  unfold Formatter.resolver
  rw [Config.nullString_disable]
  cases content with
  | direct name => rfl
  | dotted root continuation =>
    simp only [Resolver.resolve]
    cases hroot : bindings.get? root with
    | none => rfl
    | some v =>
      simp only [Span.winners, hroot] at h
      have hkept : ∀ u ∈ Path.winners (Toggle.strategy host) f.config.toggles v
          (Path.names continuation), u ∈ (f.config.disable t).toggles := by
        intro u hu
        have hne : u ≠ t := by
          rintro rfl
          exact h hu
        rw [Config.toggles_disable, List.mem_filter]
        exact ⟨Path.mem_of_mem_winners hu, decide_eq_true hne⟩
      have hsub : (f.config.disable t).toggles.Sublist f.config.toggles := by
        rw [Config.toggles_disable]
        exact List.filter_sublist
      have hwalk := Path.walk_result_of_kept f.config.nodup_toggles hsub hkept
      rw [← Config.strategies_eq_map, ← Config.strategies_eq_map] at hwalk
      simp only [Logged.bind_result, Path.resolve, hwalk]

end Placeholder

/-! ## Main statement -/

namespace Path

/-- A path ends in the same way if strategies are left out that supply none of the values on its
way.  This holds for the places in any list of strategies, whichever of them are kept, for the
strategies themselves if none is in the list twice, and for the settings: turning one off makes a
difference only to placeholders on whose path its strategy wins. -/
theorem resolve_of_winners_kept (host : Host ω) :
    (∀ (ss : List (Strategy ω)) (root : Value ω) (path : String) (kept : List (Fin ss.length)),
      kept.Sublist (List.finRange ss.length) →
      (∀ i ∈ winners ss.get (List.finRange ss.length) root (names path), i ∈ kept) →
      (resolve (kept.map ss.get) root path).result = (resolve ss root path).result) ∧
    (∀ (ss kept : List (Strategy ω)) (root : Value ω) (path : String), ss.Nodup →
      kept.Sublist ss → (∀ s ∈ winners id ss root (names path), s ∈ kept) →
      (resolve kept root path).result = (resolve ss root path).result) ∧
    ∀ (f : Formatter ω σ) (bindings : Bindings ω) (span : Placeholder.Span) (t : Toggle),
      t ∉ span.winners f.config host bindings →
      ((({ f with config := f.config.disable t } : Formatter ω σ).resolver host).resolve
        bindings span).result = ((f.resolver host).resolve bindings span).result := by
  refine ⟨?_, ?_, ?_⟩
  · intro ss root path kept hsub h
    have hwalk := walk_result_of_kept (List.nodup_finRange ss.length) hsub h
    rw [List.map_get_finRange] at hwalk
    exact hwalk
  · intro ss kept root path hnodup hsub h
    have hwalk := walk_result_of_kept hnodup hsub h
    rw [List.map_id, List.map_id] at hwalk
    exact hwalk
  · intro f bindings span t h
    exact Placeholder.resolve_result_of_disable f h

/-- A getter and then a field win, so the method strategy can be left out, and its setting turned
off.  Nothing wins on a path that leads nowhere, so there all strategies can be left out. -/
theorem resolve_of_winners_kept_without_method :
    let size : Value Fixture.Object := .map [("w", .int 11)]
    let root : Value Fixture.Object := .object (.prepared 0 "o" [] [("getSize", .ok size)])
    let ss := [Strategy.field Fixture.host, Strategy.bean Fixture.host,
      Strategy.method Fixture.host]
    let f : Formatter Fixture.Object Unit := Formatter.default Fixture.host
    let span : Placeholder.Span := ⟨.dotted "o" "size.w", 0, 10⟩
    let bindings := Bindings.ofList [("o", root)]
    winners ss.get (List.finRange 3) root (names "size.w") = [1, 0] ∧
      (resolve ([0, 1].map ss.get) root "size.w").result = (resolve ss root "size.w").result ∧
      (resolve [] size "h").result = (resolve [Strategy.field Fixture.host] size "h").result ∧
      span.winners f.config Fixture.host bindings = [.beans, .fields] ∧
      ((({ f with config := f.config.disable .methods } : Formatter Fixture.Object Unit).resolver
        Fixture.host).resolve bindings span).result =
        ((f.resolver Fixture.host).resolve bindings span).result := by
  intro size root ss f span bindings
  obtain ⟨hplaces, hnodup, hsettings⟩ := resolve_of_winners_kept (σ := Unit) Fixture.host
  have hwinners : winners ss.get (List.finRange 3) root (names "size.w") = [1, 0] := by rfl
  have htoggles : span.winners f.config Fixture.host bindings = [.beans, .fields] := by rfl
  refine ⟨hwinners, ?_, ?_, htoggles, ?_⟩
  · apply hplaces ss root "size.w" [0, 1] (by decide)
    intro i hi
    have hi : i ∈ winners ss.get (List.finRange 3) root (names "size.w") := hi
    rw [hwinners] at hi
    simpa [or_comm] using hi
  · apply hnodup [Strategy.field Fixture.host] [] size "h" (List.nodup_singleton _)
      (List.nil_sublist _)
    intro s hs
    cases hs
  · apply hsettings f bindings span .methods
    rw [htoggles]
    decide

end Path

end TextTemplate
