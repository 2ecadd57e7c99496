import SwiftDecl.Data.Calendar
import SwiftDecl.Text.Blank
import SwiftDecl.Yaml.Fault

/-!
# Dates and times

A date has a year, a month and a day with hyphens between them. A time can follow, and after it
an offset from universal time.
-/

namespace SwiftDecl.Yaml.Timestamp

/-- The time of a timestamp. -/
structure Clock where
  hour : Nat
  minute : Nat
  second : Nat
  microsecond : Nat
  /-- The offset from universal time in minutes. -/
  offset : Option Int
deriving DecidableEq, Repr

/-- A timestamp as it is written. -/
structure Written where
  date : Date
  clock : Option Clock
deriving DecidableEq, Repr

/-- Reads a number with a least and a greatest count of digits. -/
def number? (least greatest : Nat) (cs : List Char) : Option (Nat × List Char) :=
  let digits := (cs.take greatest).takeWhile Char.isDigit
  if digits.length < least then none
  else
    some (digits.foldl (fun n d => n * 10 + (d.toNat - '0'.toNat)) 0, cs.drop digits.length)

/-- Reads a character. -/
def mark? (c : Char) : List Char → Option (List Char)
  | [] => none
  | d :: cs => if d = c then some cs else none

/-- Spaces and tabs. -/
def isGap (c : Char) : Bool :=
  c == ' ' || c == '\t'

/-- The text after what stands between a date and a time. -/
def afterGap? : List Char → Option (List Char)
  | [] => none
  | c :: cs =>
    if c = 'T' ∨ c = 't' then some cs
    else if isGap c then some (cs.dropWhile isGap)
    else none

/-- The microseconds of the digits after a point. -/
def microseconds (digits : List Char) : Nat :=
  let six := (digits ++ List.replicate 6 '0').take 6
  six.foldl (fun n d => n * 10 + (d.toNat - '0'.toNat)) 0

/-- The minutes of an offset, up to the end of the text. -/
def offset? (cs : List Char) : Option Int := do
  let (hours, cs) ← number? 1 2 cs
  match cs with
  | [] => return hours * 60
  | cs =>
    let (minutes, cs) ← number? 2 2 (← mark? ':' cs)
    if cs.isEmpty then return hours * 60 + minutes else none

/-- The zone after a time, up to the end of the text. There need not be one. -/
def zone? (cs : List Char) : Option (Option Int) :=
  if cs.isEmpty then some none
  else
    match cs.dropWhile isGap with
    | ['Z'] => some (some 0)
    | '+' :: cs => (offset? cs).map some
    | '-' :: cs => (offset? cs).map fun minutes => some (-minutes)
    | _ => none

/-- The time after a date, up to the end of the text. -/
def clock? (cs : List Char) : Option Clock := do
  let (hour, cs) ← number? 1 2 cs
  let (minute, cs) ← number? 2 2 (← mark? ':' cs)
  let (second, cs) ← number? 2 2 (← mark? ':' cs)
  let (fraction, cs) := match cs with
    | '.' :: cs => (cs.takeWhile Char.isDigit, cs.dropWhile Char.isDigit)
    | cs => ([], cs)
  return { hour, minute, second, microsecond := microseconds fraction, offset := ← zone? cs }

/-- The timestamp that a text is. -/
def written? (cs : List Char) : Option Written := do
  let (year, cs) ← number? 4 4 cs
  let (month, cs) ← number? 1 2 (← mark? '-' cs)
  let (day, cs) ← number? 1 2 (← mark? '-' cs)
  let date : Date := { year, month, day }
  if cs.isEmpty then return { date, clock := none }
  else return { date, clock := some (← clock? (← afterGap? cs)) }

/-- The text is a timestamp without being told so. A date alone has two digits for the month and
two for the day. -/
def isTimestamp (cs : List Char) : Bool :=
  match written? cs with
  | some { clock := none, .. } => cs.length == 10
  | some _ => true
  | none => false

/-- A day that there is. -/
def checkDate (d : Date) : Except ValueFault Unit := do
  if d.year = 0 then throw (.year d.year)
  if d.month = 0 ∨ 12 < d.month then throw .month
  if d.day = 0 ∨ daysIn d.year d.month < d.day then throw .day

/-- A time that there is. -/
def checkClock (c : Clock) : Except ValueFault Unit := do
  if 23 < c.hour then throw .hour
  if 59 < c.minute then throw .minute
  if 59 < c.second then throw .second

/-- An offset is less than a day. -/
def checkOffset (c : Clock) : Except ValueFault Unit :=
  match c.offset with
  | some minutes => if 1440 ≤ minutes.natAbs then .error (.offset minutes) else .ok ()
  | none => .ok ()

/-- The day or the moment that a text stands for. It may end with a line feed. -/
def value (text : String) : Except ValueFault Data := do
  match written? (Text.dropFinalBreak text.toList) with
  | none => throw .timestamp
  | some { date, clock := none } =>
    checkDate date
    return .date date
  | some { date, clock := some clock } =>
    checkOffset clock
    checkDate date
    checkClock clock
    return .moment { date, hour := clock.hour, minute := clock.minute, second := clock.second,
                     microsecond := clock.microsecond, offset := clock.offset }

end SwiftDecl.Yaml.Timestamp
