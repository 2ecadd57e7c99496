import SwiftDecl.Data

/-!
# The calendar

Days are counted from the first day of the first year on, in the calendar in which every fourth
year has a day more, except three of four full centuries. A moment with an offset is a point in
time; without one it is taken as it is written.
-/

namespace SwiftDecl

/-- The year has a day in February more than the others. -/
def isLeap (year : Nat) : Bool :=
  year % 4 == 0 && (year % 100 != 0 || year % 400 == 0)

/-- How many days a month has. -/
def daysIn (year month : Nat) : Nat :=
  if month = 2 then if isLeap year then 29 else 28
  else if month ∈ [4, 6, 9, 11] then 30 else 31

/-- How many days are over before a year begins. -/
def daysBefore (year : Nat) : Nat :=
  let years := year - 1
  365 * years + years / 4 - years / 100 + years / 400

namespace Date

/-- The number of a day, counted from one. -/
def ordinal (d : Date) : Nat :=
  let months := (List.range (d.month - 1)).map fun m => daysIn d.year (m + 1)
  daysBefore d.year + months.foldl (· + ·) 0 + d.day

end Date

namespace Moment

/-- The number of the microsecond at which a moment lies. -/
def instant (m : Moment) : Int :=
  let minutes : Int := (m.date.ordinal * 24 + m.hour) * 60 + m.minute - m.offset.getD 0
  (minutes * 60 + m.second) * 1000000 + m.microsecond

/-- Two moments can be compared: for both the offset is known, or for none. -/
def isComparable (m n : Moment) : Bool :=
  m.offset.isNone == n.offset.isNone

end Moment

end SwiftDecl
