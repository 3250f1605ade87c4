import TextTemplate.Value
set_option autoImplicit false

/-!
# Event: what a rendering does besides producing text

Rendering reads members of host objects and talks to a script session.  Both are recorded as
events, in the order in which they happen, beside the result: `Logged` is a result together with
the events it took.  A session can also bring the whole program to an abrupt end.  That is an event,
too, and what stands behind it in a log, or beside it as a result, is then not to be had.
-/

namespace TextTemplate

/-- One access to a member of a host object. -/
inductive Access (ω : Type) where
  | field (object : ω) (name : String)
  | call (object : ω) (name : String)
  deriving DecidableEq, Repr, Inhabited

/-- One call of the script bridge. -/
inductive Call (ω : Type) where
  | create
  | set (name : String) (value : Value ω)
  | eval (source : String)
  | unset (name : String)
  deriving Repr, Inhabited

/-- An access, a bridge call, or the abrupt end of the program. -/
inductive Event (ω : Type) where
  | access (access : Access ω)
  | call (call : Call ω)
  | abort
  deriving Repr, Inhabited

namespace Event

variable {ω : Type}

/-- The access that an event is. -/
def access? : Event ω → Option (Access ω)
  | access a => some a
  | call _ | abort => none

/-- The bridge call that an event is. -/
def call? : Event ω → Option (Call ω)
  | access _ | abort => none
  | call c => some c

/-- Is the event the end of the program? -/
def isAbort : Event ω → Bool
  | abort => true
  | access _ | call _ => false

end Event

/-- A result together with the events that led to it, the first one first. -/
structure Logged (ω α : Type) where
  events : List (Event ω)
  result : α
  deriving Inhabited

namespace Logged

variable {ω α β : Type}

/-- A result without any event. -/
def pure (a : α) : Logged ω α := ⟨[], a⟩

/-- First the events of `x`, then those of what follows from its result. -/
def bind (x : Logged ω α) (f : α → Logged ω β) : Logged ω β :=
  ⟨x.events ++ (f x.result).events, (f x.result).result⟩

instance : Monad (Logged ω) where
  pure := Logged.pure
  bind := Logged.bind

/-- Records one event. -/
def record (e : Event ω) : Logged ω Unit := ⟨[e], ()⟩

/-- The member accesses, in order. -/
def accesses (x : Logged ω α) : List (Access ω) := x.events.filterMap Event.access?

/-- Does the program go on to the result? -/
def completes (x : Logged ω α) : Bool := !x.events.any Event.isAbort

/-- The bridge calls, in order. -/
def calls (x : Logged ω α) : List (Call ω) := x.events.filterMap Event.call?

@[simp] theorem pure_events (a : α) : (Pure.pure a : Logged ω α).events = [] := rfl

@[simp] theorem pure_result (a : α) : (Pure.pure a : Logged ω α).result = a := rfl

theorem pure_inj {a b : α} : (Pure.pure a : Logged ω α) = Pure.pure b ↔ a = b :=
  ⟨congrArg Logged.result, congrArg _⟩

@[simp] theorem bind_events (x : Logged ω α) (f : α → Logged ω β) :
    (x >>= f).events = x.events ++ (f x.result).events := rfl

@[simp] theorem bind_result (x : Logged ω α) (f : α → Logged ω β) :
    (x >>= f).result = (f x.result).result := rfl

/-- Only what goes on from the result matters. -/
theorem bind_congr_result {x : Logged ω α} {f g : α → Logged ω β} (h : f x.result = g x.result) :
    x >>= f = x >>= g :=
  congrArg (fun y : Logged ω β => Logged.mk (x.events ++ y.events) y.result) h

instance : LawfulMonad (Logged ω) := LawfulMonad.mk' (Logged ω)
  (fun x => congrArg (Logged.mk · x.result) (List.append_nil x.events))
  (fun _ _ => rfl)
  (fun x f g =>
    congrArg (Logged.mk · (g (f x.result).result).result) (List.append_assoc x.events _ _))

end Logged

end TextTemplate
