import SwiftDecl.Data
import SwiftDecl.Decimal.Shortest
import SwiftDecl.Text.Numeral

/-!
# Values shown in messages

How a message shows a value: texts between quotes, lists in brackets, tuples in parentheses,
mappings and sets in braces, dates and moments by their fields.
-/

namespace SwiftDecl

/-- A natural number with at least `width` digits. -/
def padded (width n : Nat) : String :=
  let digits := toString n
  String.ofList (List.replicate (width - digits.length) '0') ++ digits

/-- Values between parentheses. A single one is followed by a comma. -/
def shownTuple : List String → String
  | [] => "()"
  | [item] => "(" ++ item ++ ",)"
  | items => "(" ++ ", ".intercalate items ++ ")"

/-- Values between braces. -/
def shownBraces (items : List String) : String :=
  "\x7b" ++ ", ".intercalate items ++ "\x7d"

/-- A name with its fields between parentheses. -/
def shownRecord (name : String) (fields : List (String × String)) : String :=
  name ++ "(" ++ ", ".intercalate (fields.map fun f => f.1 ++ "=" ++ f.2) ++ ")"

/-- A truth value in a message. -/
def shownBool (b : Bool) : String :=
  if b then "True" else "False"

/-- A text or nothing in a message. -/
def shownOption (s : Option String) : String :=
  s.elim "None" id

/-- A byte inside a shown text of bytes. -/
def shownByte (quote : Char) (b : UInt8) : List Char :=
  let c := Char.ofNat b.toNat
  if c = quote ∨ c = '\\' then ['\\', c]
  else if c = '\n' then ['\\', 'n']
  else if c = '\r' then ['\\', 'r']
  else if c = '\t' then ['\\', 't']
  else if 32 ≤ b ∧ b < 127 then [c]
  else '\\' :: 'x' :: Text.hexDigits 2 b.toNat

/-- Bytes in a message. -/
def shownBytes (bs : List UInt8) : String :=
  let quote := Text.quoteFor (bs.map fun b => Char.ofNat b.toNat)
  String.ofList ('b' :: quote :: bs.flatMap (shownByte quote) ++ [quote])

/-- The day as text. -/
def Date.text (d : Date) : String :=
  padded 4 d.year ++ "-" ++ padded 2 d.month ++ "-" ++ padded 2 d.day

/-- The day by its fields. -/
def Date.shown (d : Date) : String :=
  "datetime.date(" ++ toString d.year ++ ", " ++ toString d.month ++ ", " ++ toString d.day ++ ")"

/-- The moment as text. -/
def Moment.text (m : Moment) : String :=
  let fraction := if m.microsecond = 0 then "" else "." ++ padded 6 m.microsecond
  let offset := match m.offset with
    | none => ""
    | some minutes =>
      (if minutes < 0 then "-" else "+") ++ padded 2 (minutes.natAbs / 60) ++ ":" ++
        padded 2 (minutes.natAbs % 60)
  m.date.text ++ " " ++ padded 2 m.hour ++ ":" ++ padded 2 m.minute ++ ":" ++ padded 2 m.second ++
    fraction ++ offset

/-- A span of minutes by its days and seconds. -/
def shownSpan (minutes : Int) : String :=
  let days := minutes.fdiv 1440
  let seconds := minutes.fmod 1440 * 60
  let fields := (if days = 0 then [] else [("days", toString days)]) ++
    (if seconds = 0 then [] else [("seconds", toString seconds)])
  if fields.isEmpty then "datetime.timedelta(0)" else shownRecord "datetime.timedelta" fields

/-- The moment by its fields. Seconds and microseconds are left out where they are zero. -/
def Moment.shown (m : Moment) : String :=
  let small :=
    if m.microsecond ≠ 0 then [m.second, m.microsecond]
    else if m.second ≠ 0 then [m.second] else []
  let fields := ([m.date.year, m.date.month, m.date.day, m.hour, m.minute] ++ small).map toString
  let zone := match m.offset with
    | none => []
    | some 0 => ["tzinfo=datetime.timezone.utc"]
    | some minutes => ["tzinfo=datetime.timezone(" ++ shownSpan minutes ++ ")"]
  "datetime.datetime(" ++ ", ".intercalate (fields ++ zone) ++ ")"

namespace Data

/-- The value is no number with too many digits to be shown. -/
def isWritable : Data → Bool
  | .int i => Text.isWritable i
  | _ => true

mutual

/-- The value as a message shows it. -/
def shown : Data → String
  | .null => "None"
  | .bool b => shownBool b
  | .int i => toString i
  | .float x => Decimal.floatText x
  | .text s => Text.quoted s
  | .bytes bs => shownBytes bs
  | .date d => d.shown
  | .moment m => m.shown
  | .list items => "[" ++ ", ".intercalate (shownAll items) ++ "]"
  | .tuple items => shownTuple (shownAll items)
  | .set items => if items.isEmpty then "set()" else shownBraces (shownAll items)
  | .map entries => shownBraces (shownEntries entries)

/-- The values of a list as a message shows them. -/
def shownAll : List Data → List String
  | [] => []
  | d :: ds => d.shown :: shownAll ds

/-- The entries of a mapping as a message shows them. -/
def shownEntries : List (Data × Data) → List String
  | [] => []
  | (k, v) :: rest => (k.shown ++ ": " ++ v.shown) :: shownEntries rest

end

/-- The value as plain text: a text is itself, and a day or a moment is written out. -/
def plain : Data → String
  | .text s => s
  | .date d => d.text
  | .moment m => m.text
  | d => d.shown

end Data

end SwiftDecl
