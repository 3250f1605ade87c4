import TextTemplate.Text
set_option autoImplicit false

/-!
# Block: the script sections of a text

A section runs from a start tag to the first end tag after it.  Sections are found from left to
right, each after the one before; a start tag without an end tag ends the search, and so does an
empty tag.
-/

namespace TextTemplate.Script

/-- A script section: from its start tag to just past its end tag, and what stands between. -/
structure Block where
  start : Nat
  stop : Nat
  source : String
  deriving DecidableEq, Repr, Inhabited

/-- A search for sections in progress. -/
structure Blocks where
  text : Text
  startTag : Text
  endTag : Text
  pos : Nat
  deriving DecidableEq, Repr, Inhabited

namespace Blocks

/-- A search of the whole text. -/
def ofText (text startTag endTag : Text) : Blocks := ⟨text, startTag, endTag, 0⟩

/-- The position of the next start tag. -/
def startFor (b : Blocks) : Option Nat := do
  let rest ← Text.after? b.text b.pos
  let offset ← Text.find? b.startTag rest
  return b.pos + offset

/-- The next section. -/
def next (b : Blocks) : Except BadRange (Option Block × Blocks) :=
  if b.startTag.isEmpty || b.endTag.isEmpty then .ok (none, b)
  else match b.startFor with
    | none => .ok (none, b)
    | some start => do
      let sourceStart := start + Text.byteSize b.startTag
      let rest ← Text.sliceFrom b.text sourceStart
      match Text.find? b.endTag rest with
      | none => return (none, { b with pos := Text.byteSize b.text })
      | some size =>
        let sourceStop := sourceStart + size
        let stop := sourceStop + Text.byteSize b.endTag
        let source ← Text.slice b.text sourceStart sourceStop
        return (some ⟨start, stop, String.ofList source⟩, { b with pos := stop })

/-- Takes up to `fuel` sections. -/
def runWithin : Nat → Blocks → Except BadRange (List Block × Blocks)
  | 0, b => .ok ([], b)
  | fuel + 1, b => do
    let (block?, b) ← b.next
    match block? with
    | none => return ([], b)
    | some block =>
      let (blocks, b) ← runWithin fuel b
      return (block :: blocks, b)

/-- All sections that are left, and the search at its end.  No section is empty, so there are no
more of them than bytes. -/
def run (b : Blocks) : Except BadRange (List Block × Blocks) :=
  runWithin (Text.byteSize b.text + 1 - b.pos) b

end Blocks

/-- The script sections of a text, from left to right. -/
def blocks (text startTag endTag : Text) : Except BadRange (List Block) := do
  let (blocks, _) ← (Blocks.ofText text startTag endTag).run
  return blocks

end TextTemplate.Script
