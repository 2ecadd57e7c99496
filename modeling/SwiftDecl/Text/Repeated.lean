/-!
# Copies of a text

A text written several times over. The count of the copies is a number of 64 bits, and the copies
have to fit into memory together.
-/

namespace SwiftDecl.Text

/-- Why there is no text of so many copies. -/
inductive TooMany where
  | count
  | length
  | memory
deriving DecidableEq, Repr

/-- The text of a fault. -/
def TooMany.message : TooMany → String
  | count => "cannot fit 'int' into an index-sized integer"
  | length => "repeated string is too long"
  | memory => ""

/-- One more than the greatest count. -/
def countLimit : Nat := Nat.pow 2 63

/-- One more than the greatest length of a text that memory holds. -/
def memoryLimit : Nat := Nat.pow 2 34

/-- Copies of a text. There are none of a count below one. -/
def copies (count : Int) (s : String) : String :=
  if s = "" then "" else String.join (List.replicate count.toNat s)

/-- Why copies of a text cannot be made. -/
def copiesFault? (count : Int) (s : String) : Option TooMany :=
  if count < -countLimit ∨ (countLimit : Int) ≤ count then some .count
  else if count ≤ 1 then none
  else if countLimit ≤ s.length * count.toNat then some .length
  else if memoryLimit ≤ s.length * count.toNat then some .memory
  else none

end SwiftDecl.Text
