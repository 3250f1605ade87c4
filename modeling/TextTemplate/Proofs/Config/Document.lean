import Mathlib.Data.List.Perm.Subperm
import TextTemplate.Config.Document
import TextTemplate.Proofs.Document.Toml.Lines
set_option autoImplicit false

/-!
# Document: settings that come back

A document that names some of the settings, in any order and with its texts in any spelling, gives
these settings and the defaults for the others, unless a script tag is empty then: the error names
the start tag if that is the one, and otherwise the end tag.  So the document of all settings gives
back those it was written for, if they are valid (`ofToml_of_lines`).
-/

namespace TextTemplate.Config

open Document (Toml)
open Document.Toml (IsBareKey Lines Spelling Written written_basicText written_flag)

variable {c : Config} {es : List (String × Toml)} {key : String}

/-- The settings by their keys. -/
def settings (c : Config) : List (String × Toml) :=
  [("fields", .bool c.fields), ("beans", .bool c.beans), ("methods", .bool c.methods),
    ("scripts", .bool c.scripts), ("null_string", .str c.nullString),
    ("script_start", .str c.scriptStart), ("script_end", .str c.scriptEnd)]

/-- The settings of `c` under the given keys, and the defaults for all others. -/
def only (c : Config) (keys : List String) : Config where
  fields := if "fields" ∈ keys then c.fields else ({} : Config).fields
  beans := if "beans" ∈ keys then c.beans else ({} : Config).beans
  methods := if "methods" ∈ keys then c.methods else ({} : Config).methods
  scripts := if "scripts" ∈ keys then c.scripts else ({} : Config).scripts
  nullString := if "null_string" ∈ keys then c.nullString else ({} : Config).nullString
  scriptStart := if "script_start" ∈ keys then c.scriptStart else ({} : Config).scriptStart
  scriptEnd := if "script_end" ∈ keys then c.scriptEnd else ({} : Config).scriptEnd

/-- The keys of all settings. -/
def names : List String :=
  ["fields", "beans", "methods", "scripts", "null_string", "script_start", "script_end"]

theorem keys_settings (c : Config) : Entries.keys c.settings = names := rfl

theorem nodup_keys_settings (c : Config) : (Entries.keys c.settings).Nodup := by
  rw [keys_settings]
  decide

theorem isBareKey_of_mem_names : ∀ key ∈ names, IsBareKey key := by decide

theorem only_all (c : Config) : c.only (Entries.keys c.settings) = c := rfl

/-! ## Reading entries -/

theorem nodup_keys_of_subperm (h : es.Subperm c.settings) : (Entries.keys es).Nodup := by
  obtain ⟨l, hperm, hsub⟩ := h
  exact (hperm.map Prod.fst).nodup_iff.1 ((nodup_keys_settings c).sublist (hsub.map _))

/-- Under the key of a setting some of the settings hold that setting or nothing. -/
theorem find?_of_subperm (h : es.Subperm c.settings) {v : Toml} (hv : (key, v) ∈ c.settings) :
    Entries.find? key es = if key ∈ Entries.keys es then some v else none := by
  split
  · next hmem =>
    obtain ⟨w, hw⟩ := Option.isSome_iff_exists.1 (Entries.find?_isSome_iff.2 hmem)
    have hsetting := h.subset (Entries.mem_of_find?_eq_some hw)
    have heq : (key, w) = (key, v) :=
      List.inj_on_of_nodup_map (nodup_keys_settings c) hsetting hv rfl
    rw [hw, (Prod.mk.inj heq).2]
  · next hmem => exact Entries.find?_eq_none_of_not_mem hmem

theorem flag_of_subperm (h : es.Subperm c.settings) {b : Bool} (hb : (key, .bool b) ∈ c.settings)
    (absent : Bool) :
    flag es key absent = .ok (if key ∈ Entries.keys es then b else absent) := by
  rw [flag, find?_of_subperm h hb]
  by_cases hmem : key ∈ Entries.keys es
  · rw [if_pos hmem, if_pos hmem]
  · rw [if_neg hmem, if_neg hmem]

theorem text_of_subperm (h : es.Subperm c.settings) {s : String} (hs : (key, .str s) ∈ c.settings)
    (absent : String) :
    text es key absent = .ok (if key ∈ Entries.keys es then s else absent) := by
  rw [text, find?_of_subperm h hs]
  by_cases hmem : key ∈ Entries.keys es
  · rw [if_pos hmem, if_pos hmem]
  · rw [if_neg hmem, if_neg hmem]

/-- Some of the settings, as entries, are these settings among the defaults. -/
theorem ofEntries_of_subperm (h : es.Subperm c.settings) :
    ofEntries es = .ok (c.only (Entries.keys es)) := by
  have hfields : ("fields", .bool c.fields) ∈ c.settings := by simp [settings]
  have hbeans : ("beans", .bool c.beans) ∈ c.settings := by simp [settings]
  have hmethods : ("methods", .bool c.methods) ∈ c.settings := by simp [settings]
  have hscripts : ("scripts", .bool c.scripts) ∈ c.settings := by simp [settings]
  have hnull : ("null_string", .str c.nullString) ∈ c.settings := by simp [settings]
  have hstart : ("script_start", .str c.scriptStart) ∈ c.settings := by simp [settings]
  have hend : ("script_end", .str c.scriptEnd) ∈ c.settings := by simp [settings]
  dsimp only [ofEntries]
  rw [flag_of_subperm h hfields, flag_of_subperm h hbeans, flag_of_subperm h hmethods,
    flag_of_subperm h hscripts, text_of_subperm h hnull, text_of_subperm h hstart,
    text_of_subperm h hend]
  rfl

/-! ## Reading documents -/

theorem ofToml_of_read {source : String} (h : Toml.read source = .ok es)
    (hes : ofEntries es = .ok c) : ofToml source = c.validate.map fun _ => c := by
  have hread : (Toml.read source >>= ofEntries) = .ok c := by
    rw [h]
    exact hes
  simp only [ofToml, hread]
  cases c.validate <;> rfl

theorem ofToml_of_settings {cs : List Char} (hes : es.Subperm c.settings) (h : Lines cs es) :
    ofToml (String.ofList cs) =
      (c.only (Entries.keys es)).validate.map fun _ => c.only (Entries.keys es) :=
  ofToml_of_read (Document.Toml.read_of_lines h (nodup_keys_of_subperm hes))
    (ofEntries_of_subperm hes)

/-! ## Writing documents -/

/-- Keys with written values make up a document, one line for each. -/
theorem lines_flatMap {ls : List (String × String)} (hbare : ∀ key ∈ Entries.keys es, IsBareKey key)
    (h : List.Forall₂ (fun l e => l.1 = e.1 ∧ Written l.2.toList e.2) ls es) :
    Lines ((ls.map fun l => l.1 ++ " = " ++ l.2 ++ "\n").flatMap String.toList) es := by
  induction h with
  | nil => exact .nil
  | @cons l e ls es first others ih =>
    obtain ⟨key, cs⟩ := l
    obtain ⟨_, v⟩ := e
    obtain ⟨rfl, written⟩ := first
    obtain ⟨bare, hbare⟩ := List.forall_mem_cons.1 hbare
    have hline : (key ++ " = " ++ cs ++ "\n").toList ++
        (ls.map fun l => l.1 ++ " = " ++ l.2 ++ "\n").flatMap String.toList =
        Document.Toml.assigning key cs.toList ++ '\n' ::
          (ls.map fun l => l.1 ++ " = " ++ l.2 ++ "\n").flatMap String.toList := by
      simp [Document.Toml.assigning]
    rw [List.map_cons, List.flatMap_cons, hline]
    exact .cons bare written (.feed _) (ih hbare)

/-- The document that names all settings has a line for each of them. -/
theorem lines_toToml (c : Config) : Lines c.toToml.toList c.settings := by
  rw [toToml, String.toList_join]
  refine lines_flatMap isBareKey_of_mem_names ?_
  exact .cons ⟨rfl, written_flag _⟩ <| .cons ⟨rfl, written_flag _⟩ <|
    .cons ⟨rfl, written_flag _⟩ <| .cons ⟨rfl, written_flag _⟩ <|
    .cons ⟨rfl, written_basicText _⟩ <| .cons ⟨rfl, written_basicText _⟩ <|
    .cons ⟨rfl, written_basicText _⟩ .nil

/-- A document of some of the settings, each on a line of its own and in whichever order, is read as
these settings and the defaults for the others if the script tags are not empty then.  Otherwise the
first of the tags that is empty is named.  Valid settings come back from the document of them. -/
theorem ofToml_of_lines (c : Config) :
    (∀ (cs : List Char) (es : List (String × Toml)), es.Subperm c.settings → Lines cs es →
      ofToml (String.ofList cs) =
        if (c.only (Entries.keys es)).scriptStart = "" then
          .error (.invalidValue "script_start" "must not be empty")
        else if (c.only (Entries.keys es)).scriptEnd = "" then
          .error (.invalidValue "script_end" "must not be empty")
        else .ok (c.only (Entries.keys es))) ∧
    (c.validate = .ok () → ofToml c.toToml = .ok c) := by
  refine ⟨fun cs es hes h => ?_, fun hvalid => ?_⟩
  · rw [ofToml_of_settings hes h, validate]
    simp only [String.isEmpty_iff]
    split
    · rfl
    · split <;> rfl
  · have hall := ofToml_of_settings (List.Subperm.refl c.settings) (lines_toToml c)
    rw [only_all, hvalid, String.ofList_toList] at hall
    exact hall

/-- Two settings in another order, with characters given by their codes and by letters. -/
theorem ofToml_of_lines_reordered :
    let c : Config := { nullString := "\"\n", scriptStart := "<%" }
    ofToml "script_start = \"\\u003c%\"\r\nnull_string = \"\\\"\\n\"" = .ok c ∧
      ofToml c.toToml = .ok c := by
  intro c
  obtain ⟨hlines, hall⟩ := ofToml_of_lines c
  have hstart : Spelling ['\\', 'u', '0', '0', '3', 'c', '%'] ['<', '%'] :=
    @Spelling.code 'u' '<' ['0', '0', '3', 'c'] ['%'] ['%'] (by decide) (by decide) (by decide)
      (.plain (by decide) (by decide) (by decide) .nil)
  have hnull : Spelling ['\\', '"', '\\', 'n'] ['"', '\n'] :=
    .escape (by decide) (.escape (by decide) .nil)
  have hbare : IsBareKey "script_start" ∧ IsBareKey "null_string" := by decide
  have hdocument := Lines.cons hbare.1 (.str hstart) (.returnFeed _)
    (.cons hbare.2 (.str hnull) .document .nil)
  refine ⟨(hlines _ _ ?_ hdocument).trans ?_, hall rfl⟩
  · refine List.Nodup.subperm (.of_map Prod.fst (by decide)) ?_
    simp [settings, c]
  · decide

end TextTemplate.Config
