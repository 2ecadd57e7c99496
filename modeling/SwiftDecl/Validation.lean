import SwiftDecl.Data.Shown

/-!
# Checking data

Data is checked against the shape that it should have. A check gives the value, or every place
where the data does not fit, each with what is wrong there.
-/

namespace SwiftDecl

/-- What is wrong at a place. -/
inductive Misfit where
  | missing
  | stringType
  | stringUnicode
  | listType
  | tupleType
  | boolType
  | boolParsing
  | literalError
  | extraForbidden
  | invalidKey
  | modelType
  | modelAttributesType
  | unionTagNotFound
  | unionTagInvalid
deriving DecidableEq, Repr

/-- The word for a misfit. -/
def Misfit.word : Misfit → String
  | missing => "missing"
  | stringType => "string_type"
  | stringUnicode => "string_unicode"
  | listType => "list_type"
  | tupleType => "tuple_type"
  | boolType => "bool_type"
  | boolParsing => "bool_parsing"
  | literalError => "literal_error"
  | extraForbidden => "extra_forbidden"
  | invalidKey => "invalid_key"
  | modelType => "model_type"
  | modelAttributesType => "model_attributes_type"
  | unionTagNotFound => "union_tag_not_found"
  | unionTagInvalid => "union_tag_invalid"

/-- A place in the data, by the keys and positions that lead to it, and what is wrong there. -/
structure Issue where
  path : List String
  misfit : Misfit
deriving DecidableEq, Repr

namespace Issue

/-- The issue one step further in. -/
def under (step : String) (i : Issue) : Issue :=
  { i with path := step :: i.path }

/-- The order of issues: by path, then by the word for the misfit. -/
def le (a b : Issue) : Bool :=
  if a.path = b.path then a.misfit.word ≤ b.misfit.word else !b.path.lex a.path (fun s t => s < t)

/-- Issues in their order. -/
def sort (issues : List Issue) : List Issue :=
  issues.mergeSort le

end Issue

/-- The result of a check. -/
abbrev Checked (α : Type) := Except (List Issue) α

namespace Checked

/-- The data does not fit. -/
def fail {α : Type} (misfit : Misfit) : Checked α :=
  .error [⟨[], misfit⟩]

/-- A function of a checked value. -/
def map {α β : Type} (f : α → β) (c : Checked α) : Checked β :=
  Except.map f c

/-- A check of what lies one step further in. -/
def under {α : Type} (step : String) (c : Checked α) : Checked α :=
  c.mapError fun issues => issues.map (Issue.under step)

/-- Both checks, with the issues of both. -/
def both {α β : Type} (a : Checked α) (b : Checked β) : Checked (α × β) :=
  match a, b with
  | .ok x, .ok y => .ok (x, y)
  | .ok _, .error issues => .error issues
  | .error issues, .ok _ => .error issues
  | .error issues, .error more => .error (issues ++ more)

/-- The checks of the items of a list, from a position on. -/
def itemsFrom {α : Type} (position : Nat) : List (Checked α) → Checked (List α)
  | [] => .ok []
  | c :: cs =>
    ((c.under (toString position)).both (itemsFrom (position + 1) cs)).map fun p => p.1 :: p.2

/-- The checks of all items of a list. -/
def items {α : Type} (cs : List (Checked α)) : Checked (List α) :=
  itemsFrom 0 cs

end Checked

namespace Data

/-- The text of bytes, if they are one. -/
def bytesText? (bs : List UInt8) : Option String :=
  String.fromUTF8? (ByteArray.mk bs.toArray)

/-- A text. Bytes are taken for their text. -/
def checkText : Data → Checked String
  | .text s => .ok s
  | .bytes bs =>
    match bytesText? bs with
    | some s => .ok s
    | none => Checked.fail .stringUnicode
  | _ => Checked.fail .stringType

/-- A text or nothing. -/
def checkOptionalText : Data → Checked (Option String)
  | .null => .ok none
  | d => d.checkText.map some

/-- The truth value that a word stands for, in capitals or not. -/
def truthWord? (word : String) : Option Bool :=
  let lower := String.ofList (word.toList.map Char.toLower)
  if lower ∈ ["1", "t", "y", "true", "yes", "on"] then some true
  else if lower ∈ ["0", "f", "n", "false", "no", "off"] then some false
  else none

/-- A truth value as a word. -/
def checkTruthWord (word : String) : Checked Bool :=
  match truthWord? word with
  | some b => .ok b
  | none => Checked.fail .boolParsing

/-- A truth value: one itself, the numbers zero and one, or a word for it. Other whole numbers of
moderate size are read and refused; what cannot be read is of the wrong type. -/
def checkBool : Data → Checked Bool
  | .bool b => .ok b
  | .int i =>
    if i = 0 then .ok false
    else if i = 1 then .ok true
    else if -9223372036854775808 ≤ i ∧ i < 9223372036854775808 then Checked.fail .boolParsing
    else Checked.fail .boolType
  | .float x =>
    if x == 0 then .ok false
    else if x == 1 then .ok true
    else if x.floor == x && x.abs < 9223372036854775808 then Checked.fail .boolParsing
    else Checked.fail .boolType
  | .text s => checkTruthWord s
  | .bytes bs =>
    match bytesText? bs with
    | some s => checkTruthWord s
    | none => Checked.fail .boolParsing
  | _ => Checked.fail .boolType

/-- The items of a value that can stand for a list. -/
def items? : Data → Option (List Data)
  | .list items | .tuple items | .set items => some items
  | _ => none

/-- A list whose items are checked one by one. -/
def checkList {α : Type} (check : Data → Checked α) (d : Data) : Checked (List α) :=
  match d.items? with
  | some items => Checked.items (items.map check)
  | none => Checked.fail .listType

/-- How a path shows a key: a truth value counts as its number. -/
def pathStep : Data → String
  | .text s => s
  | .bool b => if b then "1" else "0"
  | d => if d.isWritable then d.shown else "<unprintable int object>"

end Data

end SwiftDecl
