import TextTemplate.Proofs.Entries
import TextTemplate.Proofs.Placeholder.Selection
set_option autoImplicit false

/-!
# Dependence: what the first pass reads of the bindings

A placeholder names one binding, directly or as the root of its path, and resolving it reads no
other.  Bindings that agree on the names of all placeholders of a template are therefore rendered
alike, whichever placeholders are replaced and whichever lie inside a replaced one, and where none
of the names is bound the template is left as it is.
-/

namespace TextTemplate.Placeholder

open Text

variable {ω σ : Type}

/-- The name of the binding that a placeholder starts at. -/
def Content.root : Content → String
  | direct name => name
  | dotted root _ => root

namespace Resolver

variable {r : Resolver ω} {bindings bindings' : Bindings ω}

/-- Resolving a placeholder reads the binding it names, and no other. -/
theorem resolve_eq_of_agree {span : Span}
    (h : bindings.get? span.content.root = bindings'.get? span.content.root) :
    r.resolve bindings span = r.resolve bindings' span := by
  obtain ⟨content, opening, closing⟩ := span
  cases content with
  | direct name =>
    replace h : bindings.get? name = bindings'.get? name := h
    simp only [resolve, h]
  | dotted root continuation =>
    replace h : bindings.get? root = bindings'.get? root := h
    simp only [resolve, h]

/-- Bindings that agree on every name make the same replacements, with the same accesses. -/
theorem select_eq_of_agree {found : List Span}
    (h : ∀ span ∈ found, bindings.get? span.content.root = bindings'.get? span.content.root)
    (copied : Nat) : r.select bindings copied found = r.select bindings' copied found := by
  induction found generalizing copied with
  | nil => rfl
  | cons span found ih =>
    obtain ⟨hspan, hfound⟩ := List.forall_mem_cons.1 h
    simp only [select, resolve_eq_of_agree hspan, ih hfound]

/-- Without its binding a placeholder is left as it is, and nothing is accessed. -/
theorem resolve_of_unbound {span : Span} (h : bindings.get? span.content.root = none) :
    r.resolve bindings span = pure .unresolved := by
  obtain ⟨content, opening, closing⟩ := span
  cases content with
  | direct name =>
    replace h : bindings.get? name = none := h
    simp only [resolve, h]
  | dotted root continuation =>
    replace h : bindings.get? root = none := h
    simp only [resolve, h]

theorem select_of_unbound {found : List Span}
    (h : ∀ span ∈ found, bindings.get? span.content.root = none) (copied : Nat) :
    r.select bindings copied found = pure [] := by
  induction found generalizing copied with
  | nil => rfl
  | cons span found ih =>
    obtain ⟨hspan, hfound⟩ := List.forall_mem_cons.1 h
    rw [select, resolve_of_unbound hspan, pure_bind]
    simp only [Resolution.replacement?, ih hfound, ite_self]

end Resolver

/-- The first pass depends on nothing but the bindings that the placeholders of the template name.
It always has an answer, and the same one for bindings that agree on these names; another name may
be bound, bound to something else or removed; and where none of the names is bound, the answer is
the template. -/
theorem formatProperties_reads_named (f : Formatter ω σ) (host : Host ω) (template : String) :
    ∃ found, spans template.toList = .ok found ∧
      (∀ bindings, ∃ rendered, f.formatProperties host template bindings = .ok rendered) ∧
      (∀ bindings bindings' : Bindings ω,
        (∀ span ∈ found, bindings.get? span.content.root = bindings'.get? span.content.root) →
        f.formatProperties host template bindings = f.formatProperties host template bindings') ∧
      (∀ (bindings : Bindings ω) (name : String), (∀ span ∈ found, span.content.root ≠ name) →
        (∀ v, f.formatProperties host template (bindings.insert name v) =
          f.formatProperties host template bindings) ∧
        f.formatProperties host template (bindings.erase name) =
          f.formatProperties host template bindings) ∧
      ∀ bindings : Bindings ω, (∀ span ∈ found, bindings.get? span.content.root = none) →
        f.formatProperties host template bindings = .ok ⟨[], template⟩ := by
  obtain ⟨found, hspans, hsorted, hmem⟩ := exists_spans template.toList
  have hoccurs : ∀ span ∈ found, Occurs template.toList span := fun span => (hmem span).1
  have hagree : ∀ bindings bindings' : Bindings ω,
      (∀ span ∈ found, bindings.get? span.content.root = bindings'.get? span.content.root) →
      f.formatProperties host template bindings = f.formatProperties host template bindings' := by
    intro bindings bindings' h
    simp only [Formatter.formatProperties, hspans, bind, Except.bind,
      Resolver.select_eq_of_agree h]
  refine ⟨found, hspans, ?_, hagree, ?_, ?_⟩
  · intro bindings
    obtain ⟨out, hout⟩ := (f.resolver host).exists_spliced bindings hsorted hoccurs
    exact ⟨_, formatProperties_eq_of_spliced hspans hout⟩
  · intro bindings name hname
    refine ⟨fun v => hagree _ _ fun span hspan => ?_, hagree _ _ fun span hspan => ?_⟩
    · simp only [Bindings.get?, Bindings.insert, Entries.find?_insert, if_neg (hname span hspan)]
    · have hfind := Entries.find?_erase bindings.ordered name span.content.root
      simp only [Bindings.get?, Bindings.erase, hfind, if_neg (hname span hspan)]
  · intro bindings hunbound
    have hselect := Resolver.select_of_unbound (r := f.resolver host) hunbound 0
    have hkept : Spliced template.toList 0
        ((f.resolver host).select bindings 0 found).result template.toList := by
      rw [hselect]
      exact .done (List.nil_append _).symm byteSize_nil
    rw [formatProperties_eq_of_spliced hspans hkept, hselect, String.ofList_toList]
    rfl

end TextTemplate.Placeholder
