import TextTemplate.Document.Fault
set_option autoImplicit false

/-!
# Datetime: dates and times in TOML documents

A date, a time, or both, and with both an offset.  They are checked against the calendar and written
in one form, whatever the document used: a capital `T` between date and time, a capital `Z`, no
zeros at the end of a fraction.  They are read as values of a document and, a little less strictly,
from texts that hold nothing else.
-/

namespace TextTemplate.Document

/-- A day of the calendar. -/
structure Date where
  year : Nat
  month : Nat
  day : Nat
  deriving DecidableEq, Repr, Inhabited

/-- A time of the day; the fraction of the second is in nanoseconds. -/
structure Time where
  hour : Nat
  minute : Nat
  second : Nat
  nanosecond : Nat
  deriving DecidableEq, Repr, Inhabited

/-- How local time differs from universal time; a difference is in minutes. -/
inductive Offset where
  | zero
  | minutes (m : Int)
  deriving DecidableEq, Repr, Inhabited

/-- A date or a time or both. -/
inductive Datetime where
  | date (d : Date)
  | time (t : Time)
  | both (d : Date) (t : Time) (offset : Option Offset)
  deriving DecidableEq, Repr, Inhabited

/-! ## Writing -/

/-- A number with zeros in front of it up to a width. -/
def padded (width n : Nat) : List Char :=
  let ds := Nat.toDigits 10 n
  List.replicate (width - ds.length) '0' ++ ds

namespace Date

/-- How many days a month has. -/
def daysIn (year month : Nat) : Nat :=
  if month = 2 then if year % 4 = 0 ∧ (year % 100 ≠ 0 ∨ year % 400 = 0) then 29 else 28
  else if month = 4 ∨ month = 6 ∨ month = 9 ∨ month = 11 then 30
  else 31

/-- Is it a day of the calendar? -/
def isValid (d : Date) : Bool :=
  1 ≤ d.month && d.month ≤ 12 && 1 ≤ d.day && d.day ≤ daysIn d.year d.month

def chars (d : Date) : List Char :=
  padded 4 d.year ++ '-' :: padded 2 d.month ++ '-' :: padded 2 d.day

end Date

namespace Time

/-- Is it a time of the day, if hours go up to `lastHour`?  The last minute may have a leap
second. -/
def isValid (lastHour : Nat) (t : Time) : Bool :=
  t.hour ≤ lastHour && t.minute ≤ 59 && t.second ≤ 60

/-- The fraction of the second, if there is one, without zeros at its end. -/
def fractionChars (t : Time) : List Char :=
  if t.nanosecond = 0 then []
  else '.' :: ((padded 9 t.nanosecond).reverse.dropWhile (· == '0')).reverse

def chars (t : Time) : List Char :=
  padded 2 t.hour ++ ':' :: padded 2 t.minute ++ ':' :: padded 2 t.second ++ t.fractionChars

end Time

namespace Offset

def chars : Offset → List Char
  | zero => ['Z']
  | minutes m =>
    (if m < 0 then '-' else '+') :: padded 2 (m.natAbs / 60) ++ ':' :: padded 2 (m.natAbs % 60)

end Offset

namespace Datetime

/-- The written form. -/
def text : Datetime → String
  | date d => String.ofList d.chars
  | time t => String.ofList t.chars
  | both d t offset =>
    String.ofList (d.chars ++ 'T' :: t.chars ++ (offset.map Offset.chars).getD [])

/-! ## Reading -/

/-- A number of exactly `count` digits and what follows it. -/
def fixedDigits? (count : Nat) (cs : List Char) : Option (Nat × List Char) :=
  let ds := cs.take count
  if ds.length = count ∧ ds.all Char.isDigit then some (decimalValue ds, cs.drop count) else none

/-- Does a date begin here?  Four digits and a hyphen are enough to tell. -/
def startsDate (cs : List Char) : Bool :=
  match fixedDigits? 4 cs with
  | some (_, '-' :: _) => true
  | _ => false

/-- Does a time begin here?  An hour and a colon are enough to tell. -/
def startsTime (cs : List Char) : Bool :=
  match fixedDigits? 2 cs with
  | some (hour, ':' :: _) => hour ≤ 23
  | _ => false

/-- Takes a number of exactly `count` digits. -/
def fixedDigits (count : Nat) : Reader Nat := fun cs =>
  match fixedDigits? count cs with
  | some r => .ok r
  | none => .error .datetime

/-- Takes a date. -/
def readDate : Reader Date := do
  let year ← fixedDigits 4
  Reader.expect '-'
  let month ← fixedDigits 2
  Reader.expect '-'
  let day ← fixedDigits 2
  let d : Date := ⟨year, month, day⟩
  if d.isValid then return d else Reader.fail .datetime

/-- The nanoseconds that the digits of a fraction stand for; the tenth digit and those after it do
not count. -/
def nanoseconds (digits : List Char) : Nat :=
  decimalValue ((digits ++ List.replicate 9 '0').take 9)

/-- Takes a fraction, if there is one. -/
def readFraction : Reader Nat := fun cs =>
  match cs with
  | '.' :: c :: rest =>
    if c.isDigit then
      .ok (nanoseconds ((c :: rest).takeWhile Char.isDigit), (c :: rest).dropWhile Char.isDigit)
    else .ok (0, cs)
  | _ => .ok (0, cs)

/-- Takes a time whose hour is at most `lastHour`. -/
def readTime (lastHour : Nat) : Reader Time := do
  let hour ← fixedDigits 2
  Reader.expect ':'
  let minute ← fixedDigits 2
  Reader.expect ':'
  let second ← fixedDigits 2
  let nanosecond ← readFraction
  let t : Time := ⟨hour, minute, second, nanosecond⟩
  if t.isValid lastHour then return t else Reader.fail .datetime

/-- Takes the hours and minutes of an offset, if `isValid` holds of them. -/
def readMinutes (isValid : Nat → Nat → Bool) : Reader Int := do
  let hours ← fixedDigits 2
  Reader.expect ':'
  let minutes ← fixedDigits 2
  if isValid hours minutes then return 60 * hours + minutes else Reader.fail .datetime

/-- Takes an offset, if there is one.  Its hours and minutes are those that `isValid` holds of. -/
def readOffset (isValid : Nat → Nat → Bool) : Reader (Option Offset) := do
  match ← Reader.peek? with
  | some 'Z' | some 'z' =>
    let _ ← Reader.next
    return some .zero
  | some '+' =>
    let _ ← Reader.next
    return some (.minutes (← readMinutes isValid))
  | some '-' =>
    let _ ← Reader.next
    return some (.minutes (-(← readMinutes isValid)))
  | _ => return none

/-- Can the character stand between a date and a time? -/
def isSeparator (c : Char) : Bool := c == 'T' || c == 't' || c == ' '

/-- Does a time follow a date here, after a letter or a space? -/
def continuesWithTime : List Char → Bool
  | c :: cs => isSeparator c && startsTime cs
  | [] => false

/-- The hours and minutes of an offset in a document: those of a clock. -/
def isClockOffset (hours minutes : Nat) : Bool := hours ≤ 23 && minutes ≤ 59

/-- Takes a date or time, if one begins here. -/
def read? : Reader (Option Datetime) := do
  let cs ← get
  if startsDate cs then
    let d ← readDate
    if continuesWithTime (← get) then
      let _ ← Reader.next
      let t ← readTime 23
      return some (.both d t (← readOffset isClockOffset))
    return some (.date d)
  if startsTime cs then return some (.time (← readTime 23))
  return none

/-! ## Reading a text that holds nothing else

Here a day may end with its 24th hour, and an offset is any number of hours and minutes that make up
no more than a day. -/

/-- The hours and minutes of an offset in a text of its own: up to a day. -/
def isDayOffset (hours minutes : Nat) : Bool := 60 * hours + minutes ≤ 60 * 24

/-- Takes the date and time of a text that holds nothing else.  A colon after two characters tells a
time from a date, and only the end of the text tells that a date has no time. -/
def readAlone : Reader Datetime := do
  let cs ← get
  if cs[2]? = some ':' then return .time (← readTime 24)
  let d ← readDate
  if (← get).isEmpty then return .date d
  let c ← Reader.next
  if isSeparator c then
    let t ← readTime 24
    return .both d t (← readOffset isDayOffset)
  Reader.fail (.unexpected c)

/-- The date or time that a text denotes. -/
def ofText (s : String) : Except Fault Datetime := Reader.run readAlone s

end Datetime

end TextTemplate.Document
