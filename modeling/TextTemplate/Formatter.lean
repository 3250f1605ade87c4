import TextTemplate.Config
import TextTemplate.Placeholder.Resolution
import TextTemplate.Placeholder.Scanner
import TextTemplate.Script.Rendering
import TextTemplate.Text.Quoted
set_option autoImplicit false

/-!
# Formatter: templates to texts

A template is rendered in two passes.  The first replaces placeholders, if any way to find members
is enabled; the second replaces the script sections of what the first left, if scripts are enabled.
Rendering has no failure of its own: what cannot be resolved stays as it is written, and what a
script could not give is marked in place.  The only error a pass can answer is a cut at a position
that is none, `BadRange`.
-/

namespace TextTemplate

variable {ω σ : Type}

/-- Settings, the form of values, and where script sessions come from. -/
structure Formatter (ω σ : Type) where
  config : Config
  format : ValueFormatter ω
  factory : Option (Script.Factory ω σ)

namespace Config

/-- The enabled strategies, in the order field, bean, method. -/
def strategies (c : Config) (host : Host ω) : List (Strategy ω) :=
  (if c.fields then [Strategy.field host] else [])
    ++ (if c.beans then [Strategy.bean host] else [])
    ++ (if c.methods then [Strategy.method host] else [])

end Config

namespace Formatter

/-- Default settings, every value as its text, no script sessions. -/
def default (host : Host ω) : Formatter ω σ := ⟨{}, ValueFormatter.display host, none⟩

/-- What placeholders are resolved with. -/
def resolver (f : Formatter ω σ) (host : Host ω) : Placeholder.Resolver ω :=
  ⟨f.config.strategies host, f.format, f.config.nullString⟩

/-- The first pass: replaces the placeholders of a text. -/
def formatProperties (f : Formatter ω σ) (host : Host ω) (template : String)
    (bindings : Bindings ω) : Except BadRange (Logged ω String) := do
  let text := template.toList
  let spans ← Placeholder.spans text
  let edits := (f.resolver host).select bindings 0 spans
  let rendered ← Text.splice text 0 edits.result
  return ⟨edits.events, String.ofList rendered⟩

/-- The second pass: replaces the script sections of a text. -/
def formatScripts (f : Formatter ω σ) (host : Host ω) (template : String)
    (bindings : Bindings ω) : Except BadRange (Logged ω String) := do
  let text := template.toList
  let blocks ← Script.blocks text f.config.scriptStart.toList f.config.scriptEnd.toList
  let edits := Script.renderBlocks host f.config.nullString f.factory bindings none blocks
  let rendered ← Text.splice text 0 edits.result
  return ⟨edits.events, String.ofList rendered⟩

/-- Both passes, as far as they are enabled. -/
def render (f : Formatter ω σ) (host : Host ω) (template : String) (bindings : Bindings ω) :
    Except BadRange (Logged ω String) := do
  let substituted ←
    if f.config.propertyAccessEnabled then f.formatProperties host template bindings
    else .ok ⟨[], template⟩
  if f.config.scripts then
    let scripted ← f.formatScripts host substituted.result bindings
    return ⟨substituted.events ++ scripted.events, scripted.result⟩
  else return substituted

/-- Evaluates one script in a given session, which need not come from the formatter's factory. -/
def formatScript {τ : Type} (f : Formatter ω σ) (host : Host ω) (source : String)
    (bindings : Bindings ω) (session : Script.Session ω τ) :
    Logged ω (String × Script.Session ω τ) :=
  session.renderScript host f.config.nullString bindings source

/-- Can a script session be made?  To find out, one is. -/
def isInterpreterAvailable (f : Formatter ω σ) : Logged ω Bool := do
  match ← Script.createSession f.factory with
  | .ok _ => return true
  | .error _ => return false

/-- The settings as one line of names and values, and whether script sessions can be asked for. -/
def debugText (f : Formatter ω σ) : String :=
  let flag (b : Bool) := if b then "true" else "false"
  let c := f.config
  let entries := [("fields", flag c.fields), ("beans", flag c.beans), ("methods", flag c.methods),
    ("scripts", flag c.scripts), ("null_string", Text.quoted c.nullString),
    ("script_start", Text.quoted c.scriptStart), ("script_end", Text.quoted c.scriptEnd)]
  let config := ", ".intercalate (entries.map fun e => e.1 ++ ": " ++ e.2)
  "TemplateFormatter \x7b config: FormatterConfig \x7b " ++ config ++ " \x7d, interpreter: "
    ++ flag f.factory.isSome ++ ", .. \x7d"

end Formatter

/-- Renders a template with default settings. -/
def render (host : Host ω) (template : String) (bindings : Bindings ω) :
    Except BadRange (Logged ω String) :=
  (Formatter.default host : Formatter ω Unit).render host template bindings

end TextTemplate
