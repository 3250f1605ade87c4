set_option autoImplicit false

/-!
# Config: the settings of a formatter

Three settings say which strategies find members, one whether script sections are evaluated, and
three are texts: the one for an absent value and the two script tags.  A formatter works with any
settings; `validate` refuses those under which no script section could be found.
-/

namespace TextTemplate

/-- The settings of a formatter. -/
structure Config where
  fields : Bool := true
  beans : Bool := true
  methods : Bool := true
  scripts : Bool := false
  nullString : String := "<null>"
  scriptStart : String := "<bsh>"
  scriptEnd : String := "</bsh>"
  deriving DecidableEq, Repr

/-- Why no settings could be had. -/
inductive ConfigError where
  | parse (reason : String)
  | io (reason : String)
  | invalidValue (field reason : String)
  deriving DecidableEq, Repr, Inhabited

/-- The error as it is shown. -/
def ConfigError.message : ConfigError → String
  | parse reason => "CONFIG_PARSE_ERROR: " ++ reason
  | io reason => "CONFIG_IO_ERROR: " ++ reason
  | invalidValue field reason => "CONFIG_INVALID_VALUE: " ++ field ++ ": " ++ reason

namespace Config

instance : Inhabited Config := ⟨{}⟩

/-- Neither script tag may be empty; the start tag is looked at first. -/
def validate (c : Config) : Except ConfigError Unit :=
  if c.scriptStart.isEmpty then .error (.invalidValue "script_start" "must not be empty")
  else if c.scriptEnd.isEmpty then .error (.invalidValue "script_end" "must not be empty")
  else .ok ()

/-- Are placeholders looked at? -/
def propertyAccessEnabled (c : Config) : Bool := c.fields || c.beans || c.methods

end Config

end TextTemplate
