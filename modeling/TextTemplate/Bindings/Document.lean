import TextTemplate.Bindings
import TextTemplate.Document.Json.Reader
import TextTemplate.Document.Toml.Reader
set_option autoImplicit false

/-!
# Document: bindings from documents

Every entry of a document's outermost table binds a name.
-/

namespace TextTemplate

/-- Why a document gives no bindings. -/
inductive BindingsError where
  | parse (reason : String)
  | notATable (kind : String)
  deriving DecidableEq, Repr, Inhabited

/-- The error as it is shown. -/
def BindingsError.message : BindingsError → String
  | parse reason => "BINDINGS_PARSE_ERROR: " ++ reason
  | notATable kind =>
    "BINDINGS_NOT_A_TABLE: expected a table of named values, found " ++ kind

namespace Bindings

open Document (Json Toml)

variable {ω : Type}

/-- The bindings of a JSON document, which must be an object. -/
def ofJson (source : String) : Except BindingsError (Bindings ω) :=
  match Json.read source with
  | .error f => .error (.parse ("JSON error: " ++ f.message))
  | .ok (.obj entries) => .ok (.ofList (Json.toEntries entries))
  | .ok j => .error (.notATable (j.toValue : Value ω).kind)

/-- The bindings of a TOML document. -/
def ofToml (source : String) : Except BindingsError (Bindings ω) :=
  match Toml.read source >>= Toml.settledEntries with
  | .error f => .error (.parse f.message)
  | .ok entries => .ok (.ofList (Toml.toEntries entries))

end Bindings

end TextTemplate
