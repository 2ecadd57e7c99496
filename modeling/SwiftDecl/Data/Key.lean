import SwiftDecl.Data.Calendar
import SwiftDecl.Decimal.Shortest

/-!
# Keys of mappings

A mapping holds each key once. Numbers are the same key if they are equal, whatever their type:
a truth value counts as one or zero. What is no number equals nothing, not even itself. Moments
with an offset are the same key if they are the same point in time. Collections cannot be keys.
-/

namespace SwiftDecl.Data

/-- The value can be a key. -/
def isKey : Data → Bool
  | .list _ | .set _ | .map _ => false
  | _ => true

/-- The number that a value counts as, if it is one and no floating point number. -/
def wholeNumber? : Data → Option Int
  | .bool b => some (if b then 1 else 0)
  | .int i => some i
  | _ => none

/-- How a whole number lies to a floating point number. The comparison is exact; with what is no
number there is none. -/
def compareFloat? (i : Int) (x : Float) : Option Ordering :=
  match Decimal.Parts.ofFloat x with
  | .nan => none
  | .infinity negative => some (if negative then .gt else .lt)
  | .zero _ => some (compare i 0)
  | .finite negative b =>
    let size := Decimal.Ratio.scaled b.mantissa b.exponent
    some (compare (i * size.den) (if negative then -size.num else size.num))

/-- The two values are the same key. -/
def sameKey (a b : Data) : Bool :=
  match a, b with
  | .null, .null => true
  | .text s, .text t => s == t
  | .bytes s, .bytes t => s == t
  | .date d, .date e => d == e
  | .moment m, .moment n => m.isComparable n && m.instant == n.instant
  | .float x, .float y => x == y
  | .float x, b => b.wholeNumber?.any fun i => compareFloat? i x == some .eq
  | a, .float y => a.wholeNumber?.any fun i => compareFloat? i y == some .eq
  | a, b =>
    match a.wholeNumber?, b.wholeNumber? with
    | some i, some j => i == j
    | _, _ => false

/-- The value under a key that is a text. -/
def field? (entries : List (Data × Data)) (key : String) : Option Data :=
  (entries.find? fun e => match e.1 with
    | .text k => k == key
    | _ => false).map (·.2)

end SwiftDecl.Data
