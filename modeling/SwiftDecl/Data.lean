/-!
# Data

The values that a document or a configuration is made of before it is checked: scalars, lists
and mappings, with dates, sets and tuples among them.
-/

namespace SwiftDecl

/-- A day of the calendar. -/
structure Date where
  year : Nat
  month : Nat
  day : Nat
deriving DecidableEq, Repr

/-- A day with a time, and the offset from universal time in minutes if it is known. -/
structure Moment where
  date : Date
  hour : Nat
  minute : Nat
  second : Nat
  microsecond : Nat
  offset : Option Int
deriving DecidableEq, Repr

/-- A value that has not been checked yet. A mapping keeps its entries in order. -/
inductive Data where
  | null
  | bool (b : Bool)
  | int (i : Int)
  | float (x : Float)
  | text (s : String)
  | bytes (bs : List UInt8)
  | date (d : Date)
  | moment (m : Moment)
  | list (items : List Data)
  | tuple (items : List Data)
  | set (items : List Data)
  | map (entries : List (Data × Data))
deriving Inhabited

end SwiftDecl
