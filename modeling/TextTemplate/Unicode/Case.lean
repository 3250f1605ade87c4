import TextTemplate.Unicode.CaseTable
import TextTemplate.Unicode.Cased
set_option autoImplicit false

/-!
# Case: texts in upper and in lower case

Case mapping is the full one: a character may become several, and a capital sigma is lowered
according to its place in the word.  No language's own rules apply.
-/

namespace TextTemplate.Unicode

/-- The mapped form of a character by a list of runs and a list of sequences. -/
def mapCase (runs : List CaseRun) (sequences : List (Nat × List Nat)) (c : Char) : List Char :=
  match sequences.lookup c.toNat with
  | some ns => ns.map Char.ofNat
  | none =>
    match runs.find? (·.has c.toNat) with
    | some r => [Char.ofNat ((c.toNat : Int) + r.shift).toNat]
    | none => [c]

/-- The upper-case form of a character. -/
def upperChar (c : Char) : List Char := mapCase upperRuns upperSequences c

/-- The lower-case form of a character, its neighbours not regarded. -/
def lowerChar (c : Char) : List Char := mapCase lowerRuns lowerSequences c

/-- Every character in upper case. -/
def upper (s : String) : String := String.ofList (s.toList.flatMap upperChar)

/-- The text with only its first character in upper case. -/
def capitalize (s : String) : String :=
  match s.toList with
  | [] => ""
  | c :: cs => String.ofList (upperChar c ++ cs)

/-- After the case-ignorable characters, does a cased one come first? -/
def startsCased (cs : List Char) : Bool :=
  match cs.dropWhile caseIgnorable.has with
  | [] => false
  | c :: _ => cased.has c

/-- Lowers `cs`, of which `before` precedes, the nearest character first. -/
def lowerAfter (before : List Char) : List Char → List Char
  | [] => []
  | c :: cs =>
    (if c = 'Σ' then if startsCased before && !startsCased cs then ['ς'] else ['σ']
     else lowerChar c) ++ lowerAfter (c :: before) cs

/-- Every character in lower case. -/
def lower (s : String) : String := String.ofList (lowerAfter [] s.toList)

end TextTemplate.Unicode
