import TextTemplate.Config
import TextTemplate.Document.Toml.Reader
set_option autoImplicit false

/-!
# Document: settings from and as documents

A document of settings names any of them and leaves the others at their defaults.  Keys that are no
settings are ignored, a value of the wrong type is an error, and so are settings that are not valid.
-/

namespace TextTemplate.Config

open Document (Toml Fault)

/-- The setting `key` if it is a truth value. -/
def flag (entries : List (String × Toml)) (key : String) (absent : Bool) : Except Fault Bool :=
  match Entries.find? key entries with
  | none => .ok absent
  | some (.bool b) => .ok b
  | some _ => .error (.type key)

/-- The setting `key` if it is a text. -/
def text (entries : List (String × Toml)) (key absent : String) : Except Fault String :=
  match Entries.find? key entries with
  | none => .ok absent
  | some (.str s) => .ok s
  | some _ => .error (.type key)

/-- The settings of a document's entries, in place of the defaults. -/
def ofEntries (entries : List (String × Toml)) : Except Fault Config := do
  let absent : Config := {}
  return {
    fields := ← flag entries "fields" absent.fields
    beans := ← flag entries "beans" absent.beans
    methods := ← flag entries "methods" absent.methods
    scripts := ← flag entries "scripts" absent.scripts
    nullString := ← text entries "null_string" absent.nullString
    scriptStart := ← text entries "script_start" absent.scriptStart
    scriptEnd := ← text entries "script_end" absent.scriptEnd }

/-- The settings of a document. -/
def ofToml (source : String) : Except ConfigError Config := do
  match Toml.read source >>= ofEntries with
  | .error f => .error (.parse f.message)
  | .ok c =>
    c.validate
    return c

/-- The settings in a file, whose content is nothing if it cannot be read. -/
def ofFile (content : Option ByteArray) : Except ConfigError Config :=
  match content with
  | none => .error (.io "file cannot be read")
  | some bytes =>
    match String.fromUTF8? bytes with
    | none => .error (.io "file is not text")
    | some source => ofToml source

/-- The lines of a document that names all settings: key and value. -/
def lines (c : Config) : List (String × String) :=
  let flag (b : Bool) := if b then "true" else "false"
  [("fields", flag c.fields), ("beans", flag c.beans), ("methods", flag c.methods),
    ("scripts", flag c.scripts), ("null_string", Toml.basicText c.nullString),
    ("script_start", Toml.basicText c.scriptStart), ("script_end", Toml.basicText c.scriptEnd)]

/-- The document that names all settings, one to a line.  Texts are written as basic strings only,
also where a literal or a multi-line string could stand for the same text. -/
def toToml (c : Config) : String :=
  String.join (c.lines.map fun l => l.1 ++ " = " ++ l.2 ++ "\n")

end TextTemplate.Config
