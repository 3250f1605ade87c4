import TextTemplate.Value
set_option autoImplicit false

/-!
# Host: the objects behind object values

A host gives its objects a text, fields, which are read, and methods without arguments, which are
called and may fail.  What it hands out may contain further objects, itself included, so the
objects of a host need not form a tree.
-/

namespace TextTemplate

/-- Why a method gave no value. -/
inductive MemberError where
  | failed (member reason : String)
  | unsupported (member : String)
  deriving DecidableEq, Repr, Inhabited

/-- The error as it is shown. -/
def MemberError.message : MemberError → String
  | failed member reason => "MEMBER_FAILED: '" ++ member ++ "' failed: " ++ reason
  | unsupported member => "MEMBER_UNSUPPORTED: '" ++ member ++ "' is not supported on this value"

/-- What a host tells about its objects.  `fieldNames` lists the fields that `field` answers;
`field` and `call` answer nothing for a member that the object does not have. -/
structure Host (ω : Type) where
  display : ω → String
  fieldNames : ω → List String
  field : ω → String → Option (Value ω)
  call : ω → String → Option (Except MemberError (Value ω))

end TextTemplate
