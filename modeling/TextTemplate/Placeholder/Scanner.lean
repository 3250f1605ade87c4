import TextTemplate.Placeholder.Span
set_option autoImplicit false

/-!
# Scanner: the placeholders of a template

Every open marker is paired with the first close marker after it.  Content that is empty, or that
begins or ends with its first dot, makes no placeholder, and after every open marker the scan goes
on one byte further.  Placeholders may therefore overlap: `open a open b close` holds two of them.

The positions of the next close marker and of the next dot are remembered from one open marker to
the next, since many open markers can share one close marker.  A remembered dot may be the close
marker that ended the search for one.
-/

namespace TextTemplate.Placeholder

/-- A scan in progress. -/
structure Scanner where
  text : Text
  pos : Nat
  nextClose : Option Nat
  nextDot : Option Nat
  deriving DecidableEq, Repr, Inhabited

namespace Scanner

/-- A scan that starts at byte `offset`; past the end or inside a character there is nothing. -/
def fromOffset (text : Text) (offset : Nat) : Scanner := ⟨text, offset, none, none⟩

/-- A scan of the whole text. -/
def ofText (text : Text) : Scanner := fromOffset text 0

/-! ## Remembered positions -/

/-- A remembered position that does not lie before `start`. -/
def usable? (remembered : Option Nat) (start : Nat) : Option Nat := remembered.filter (start ≤ ·)

/-- The close marker of the content that starts at `start`. -/
def closeFor (s : Scanner) (start : Nat) : Except BadRange (Option Nat × Scanner) :=
  match usable? s.nextClose start with
  | some closing => .ok (some closing, s)
  | none => do
    let rest ← Text.sliceFrom s.text start
    match Text.find? closeMarker rest with
    | some offset => return (some (start + offset), { s with nextClose := some (start + offset) })
    | none => return (none, s)

/-- The first dot of the content from `start` up to `closing`, or `closing` if it has none. -/
def dotFor (s : Scanner) (start closing : Nat) : Except BadRange (Nat × Scanner) :=
  match usable? s.nextDot start with
  | some dot => .ok (dot, s)
  | none => do
    let content ← Text.slice s.text start closing
    let dot := match Text.find? [separator] content with
      | some offset => start + offset
      | none => closing
    return (dot, { s with nextDot := some dot })

/-! ## One open marker -/

/-- Splits content at its first dot, if it has one; neither side may be empty. -/
def classify (content : Text) (dot : Option Nat) : Except BadRange (Option Content) :=
  if content.isEmpty then .ok none
  else match dot with
    | none => .ok (some (.direct (String.ofList content)))
    | some dot =>
      if 0 < dot ∧ dot + 1 < Text.byteSize content then do
        let root ← Text.slice content 0 dot
        let continuation ← Text.sliceFrom content (dot + 1)
        return some (.dotted (String.ofList root) (String.ofList continuation))
      else .ok none

/-- What the next open marker gives: there is none that can be closed, it opens no placeholder, or
it opens one. -/
inductive Step where
  | finished (s : Scanner)
  | literal (s : Scanner)
  | found (span : Span) (s : Scanner)
  deriving DecidableEq, Repr, Inhabited

/-- Goes past the next open marker.  Where one has no close marker, no later one has. -/
def step (s : Scanner) : Except BadRange Step :=
  match Text.after? s.text s.pos with
  | none => .ok (.finished s)
  | some rest =>
    match Text.find? openMarker rest with
    | none => .ok (.finished s)
    | some offset => do
      let opening := s.pos + offset
      let start := opening + Text.byteSize openMarker
      let (closing?, s) ← closeFor { s with pos := opening + 1 } start
      match closing? with
      | none => return .finished { s with pos := Text.byteSize s.text }
      | some closing =>
        let (dot, s) ← s.dotFor start closing
        let content ← Text.slice s.text start closing
        match ← classify content (if dot < closing then some (dot - start) else none) with
        | some content => return .found ⟨content, opening, closing⟩ s
        | none => return .literal s

/-! ## Placeholder by placeholder -/

/-- A bound on the open markers that are left. -/
def remaining (s : Scanner) : Nat := Text.byteSize s.text + 1 - s.pos

/-- Looks at up to `fuel` open markers. -/
def nextWithin : Nat → Scanner → Except BadRange (Option Span × Scanner)
  | 0, s => .ok (none, s)
  | fuel + 1, s => do
    match ← s.step with
    | .finished s => return (none, s)
    | .literal s => nextWithin fuel s
    | .found span s => return (some span, s)

/-- The next placeholder. -/
def next (s : Scanner) : Except BadRange (Option Span × Scanner) := nextWithin s.remaining s

/-- Takes up to `fuel` placeholders. -/
def runWithin : Nat → Scanner → Except BadRange (List Span × Scanner)
  | 0, s => .ok ([], s)
  | fuel + 1, s => do
    let (span?, s) ← s.next
    match span? with
    | none => return ([], s)
    | some span =>
      let (spans, s) ← runWithin fuel s
      return (span :: spans, s)

/-- All placeholders that are left, and the scan at its end. -/
def run (s : Scanner) : Except BadRange (List Span × Scanner) := runWithin s.remaining s

end Scanner

/-- The placeholders of a template, in the order of their open markers. -/
def spans (text : Text) : Except BadRange (List Span) := do
  let (spans, _) ← (Scanner.ofText text).run
  return spans

end TextTemplate.Placeholder
