import TextTemplate.Event
import TextTemplate.Host
set_option autoImplicit false

/-!
# Object: a host with a few kinds of objects

The objects range from a bare label to prepared ones whose fields and methods are listed one by one.
An object is known by the serial number it was made with; a dimension also makes copies of itself,
and a copy is a new object.
-/

namespace TextTemplate.Fixture

/-- What a prepared method does. -/
inductive Answer (α : Type) where
  | ok (value : α)
  | failed (reason : String)
  | unsupported
  deriving Repr, Inhabited

/-- What an object consists of, its fields and methods holding values over `α`. -/
inductive Body (α : Type) where
  | dimension (width height : Int64)
  | failing
  | unit
  | switch (name : String) (on : Bool)
  | label (display : String)
  | prepared (display : String) (fields : List (String × Value α))
      (methods : List (String × Answer (Value α)))
  deriving Repr, Inhabited

/-- An object: its serial number, how many copies it is away from the object made with that number,
and what it consists of. -/
inductive Object where
  | mk (serial copies : Nat) (body : Body Object)
  deriving Repr

namespace Object

instance : Inhabited Object := ⟨.mk 0 0 .failing⟩

/-- An object with the given fields, in name order, and methods. -/
def prepared (serial : Nat) (display : String) (fields : List (String × Value Object))
    (methods : List (String × Answer (Value Object))) : Object :=
  mk serial 0 (.prepared display (Entries.ofList fields) methods)

/-- What an object consists of. -/
def body : Object → Body Object
  | mk _ _ body => body

/-- Two references are the same object if they were made together. -/
def same : Object → Object → Bool
  | mk serial copies _, mk serial' copies' _ => serial == serial' && copies == copies'

instance : BEq Object := ⟨same⟩

/-- Is the object one whose accesses are to be shown?  The prepared ones are. -/
def isWatched (o : Object) : Bool :=
  match o.body with
  | .prepared _ _ _ => true
  | _ => false

/-- The text of an object. -/
def display (o : Object) : String :=
  match o.body with
  | .dimension width height =>
    "Dimension[width=" ++ toString width.toInt ++ ",height=" ++ toString height.toInt ++ "]"
  | .failing => "FailingMethod"
  | .unit => "UnitMethod"
  | .switch name on => name ++ "=" ++ if on then "on" else "off"
  | .label display => display
  | .prepared display _ _ => display

/-- The names of the fields. -/
def fieldNames (o : Object) : List String :=
  match o.body with
  | .dimension _ _ => ["width", "height"]
  | .prepared _ fields _ => fields.map (·.1)
  | _ => []

/-- The field `name`. -/
def field (o : Object) (name : String) : Option (Value Object) :=
  match o.body, name with
  | .dimension width _, "width" => some (.int width)
  | .dimension _ height, "height" => some (.int height)
  | .prepared _ fields _, name => fields.lookup name
  | _, _ => none

/-- What the method `name` answers. -/
def call : Object → String → Option (Except MemberError (Value Object))
  | o@(mk serial copies body), name =>
    match body, name with
    | .dimension width _, "getWidth" => some (.ok (.float (Float.ofInt width.toInt)))
    | .dimension _ height, "getHeight" => some (.ok (.float (Float.ofInt height.toInt)))
    | .dimension _ _, "getSize" => some (.ok (.object (mk serial (copies + 1) body)))
    | .dimension _ _, "toString" => some (.ok (.str o.display))
    | .failing, "b" => some (.error (.unsupported "b"))
    | .unit, "v" => some (.ok .null)
    | .switch name _, "getName" => some (.ok (.str name))
    | .switch _ on, "isOn" => some (.ok (.bool on))
    | .prepared _ _ methods, name =>
      (methods.lookup name).map fun
        | .ok v => .ok v
        | .failed reason => .error (.failed name reason)
        | .unsupported => .error (.unsupported name)
    | _, _ => none

end Object

/-- The accesses to watched objects, in order. -/
def watchedAccesses (events : List (Event Object)) : List (Access Object) :=
  (events.filterMap Event.access?).filter fun
    | .field o _ => o.isWatched
    | .call o _ => o.isWatched

/-- The host of these objects. -/
def host : Host Object := ⟨Object.display, Object.fieldNames, Object.field, Object.call⟩

end TextTemplate.Fixture
