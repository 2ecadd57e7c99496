import SwiftDecl.Text.LowerCase
import SwiftDecl.Yaml.Fault

/-!
# Numbers

Integers are written in the bases two, eight, ten and sixteen, and like times with colons between
groups of sixty. Floating point numbers have a point. Underscores may stand between digits.
-/

namespace SwiftDecl.Yaml.Number

/-! ## Which texts are numbers -/

/-- A text without a sign at its front. -/
def dropSign : List Char → List Char
  | '-' :: cs => cs
  | '+' :: cs => cs
  | cs => cs

/-- The parts of a text between colons. -/
def splitColons : List Char → List (List Char)
  | [] => [[]]
  | c :: cs =>
    match c, splitColons cs with
    | ':', groups => [] :: groups
    | c, group :: groups => (c :: group) :: groups
    | c, [] => [[c]]

/-- A number below sixty, with one digit or two. -/
def isSixty : List Char → Bool
  | [d] => d.isDigit
  | [d, e] => '0' ≤ d && d ≤ '5' && e.isDigit
  | _ => false

/-- A digit or an underscore. -/
def isDigitPart (c : Char) : Bool :=
  c.isDigit || c == '_'

/-- The text is an integer. -/
def isInteger (cs : List Char) : Bool :=
  match dropSign cs with
  | ['0'] => true
  | '0' :: 'b' :: ds => !ds.isEmpty && ds.all fun c => c == '0' || c == '1' || c == '_'
  | '0' :: 'x' :: ds => !ds.isEmpty && ds.all fun c => (Text.hexValue? c).isSome || c == '_'
  | '0' :: ds => ds.all fun c => ('0' ≤ c && c ≤ '7') || c == '_'
  | ds =>
    match splitColons ds with
    | [] => false
    | first :: rest =>
      first.head?.any Char.isDigit && first.all isDigitPart && rest.all isSixty

/-- An exponent, which has a sign, or nothing. -/
def isExponent : List Char → Bool
  | [] => true
  | e :: sign :: ds =>
    (e == 'e' || e == 'E') && (sign == '-' || sign == '+') && !ds.isEmpty && ds.all Char.isDigit
  | _ => false

/-- The digits after a point, with an exponent. -/
def isFraction (cs : List Char) : Bool :=
  isExponent (cs.dropWhile isDigitPart)

/-- The text is a floating point number. -/
def isFloat (cs : List Char) : Bool :=
  let ds := dropSign cs
  if [".inf".toList, ".Inf".toList, ".INF".toList].contains ds then true
  else if [".nan".toList, ".NaN".toList, ".NAN".toList].contains cs then true
  else
    match cs with
    | '.' :: d :: rest => d.isDigit && isFraction rest
    | _ =>
      ds.head?.any Char.isDigit &&
        match ds.dropWhile isDigitPart with
        | '.' :: rest => isFraction rest
        | ':' :: rest =>
          let groups := splitColons (rest.takeWhile (· != '.'))
          match rest.dropWhile (· != '.') with
          | '.' :: rest => groups.all isSixty && rest.all isDigitPart
          | _ => false
        | _ => false

/-! ## Their values -/

/-- The whole number that digits of a base spell. -/
def digitsValue (base : Nat) (cs : List Char) : Except ValueFault Int :=
  (Text.numeral base cs).mapError .numeral

/-- The number that groups of sixty stand for, from the values of its parts. -/
def sixties (groups : List Int) : Int :=
  groups.foldl (fun n group => n * 60 + group) 0

/-- The integer that a text stands for. -/
def integer (text : String) : Except ValueFault Int := do
  let cs := text.toList.filter (· != '_')
  if cs.isEmpty then throw .noNumber
  let (sign, ds) := Text.splitSign cs
  match ds with
  | [] => throw .noNumber
  | ['0'] => return 0
  | '0' :: 'b' :: rest => return sign * (← digitsValue 2 rest)
  | '0' :: 'x' :: rest => return sign * (← digitsValue 16 rest)
  | '0' :: _ => return sign * (← digitsValue 8 ds)
  | _ =>
    if ds.contains ':' then return sign * sixties (← (splitColons ds).mapM (digitsValue 10))
    else return sign * (← digitsValue 10 ds)

/-- The float nearest to a decimal number. -/
def decimal (mantissa : Nat) (exponent : Int) : Float :=
  let digits : Int := (toString mantissa).length
  if mantissa = 0 ∨ digits + exponent < -400 then 0
  else if 400 < digits + exponent then 1 / 0
  else if exponent < 0 then Float.ofScientific mantissa true exponent.natAbs
  else Float.ofScientific mantissa false exponent.natAbs

/-- The value of decimal digits. -/
def decimalDigits? (cs : List Char) : Option Nat :=
  cs.foldlM (fun n c => (Text.digitValue? 10 c).map (n * 10 + ·)) 0

/-- The exponent of a decimal number: none stands for zero. -/
def exponent? : List Char → Option Int
  | [] => some 0
  | e :: cs =>
    let (sign, ds) := Text.splitSign cs
    if e ≠ 'e' ∨ ds.isEmpty then none else (decimalDigits? ds).map (sign * ·)

/-- The float that a decimal number without a sign stands for. -/
def unsigned? (cs : List Char) : Option Float := do
  let whole := cs.takeWhile Char.isDigit
  let rest := cs.dropWhile Char.isDigit
  let (fraction, rest) := match rest with
    | '.' :: rest => (rest.takeWhile Char.isDigit, rest.dropWhile Char.isDigit)
    | rest => ([], rest)
  if whole.isEmpty ∧ fraction.isEmpty then none
  let mantissa ← decimalDigits? (whole ++ fraction)
  let exponent ← exponent? rest
  return decimal mantissa (exponent - fraction.length)

/-- The characters of a number without those that stand around it. -/
def unpadded (cs : List Char) : List Char :=
  let cs := (cs.map Text.plainChar).dropWhile Text.isPadding
  (cs.reverse.dropWhile Text.isPadding).reverse

/-- The float that a text in small letters stands for. -/
def floatValue (cs : List Char) : Except ValueFault Float :=
  let (sign, ds) := Text.splitSign (unpadded cs)
  let size : Option Float :=
    if ds = "inf".toList ∨ ds = "infinity".toList then some (1 / 0)
    else if ds = "nan".toList then some (0 / 0)
    else unsigned? ds
  match size with
  | some x => .ok (if sign = -1 then -x else x)
  | none => .error (.float (String.ofList cs))

/-- The float nearest to a number, which has to be finite. -/
def finite (n : Nat) : Except ValueFault Float :=
  let x := Float.ofNat n
  if x.isInf then .error .overflow else .ok x

/-- The float that groups of sixty stand for, from the values of its parts. -/
def floatSixties (groups : List Float) : Except ValueFault Float := do
  -- The last group is added first: floats do not add up to the same in every order.
  let total ← groups.reverse.foldlM
    (fun (total : Float × Nat) group =>
      return (total.1 + group * (← finite total.2), total.2 * 60)) (0, 1)
  return total.1

/-- The characters of a floating point number in small letters, without underscores. -/
def floatChars (text : String) : List Char :=
  Text.lowerCase (text.toList.filter (· != '_'))

/-- The text is the word for what is no number. Other texts can spell that, but not this one value
of it. -/
def isNaNWord (text : String) : Bool :=
  (Text.splitSign (floatChars text)).2 == ".nan".toList

/-- The floating point number that a text stands for. -/
def float (text : String) : Except ValueFault Float := do
  let cs := floatChars text
  if cs.isEmpty then throw .noNumber
  let (sign, ds) := Text.splitSign cs
  let size : Float ←
    if ds = ".inf".toList then pure (1 / 0)
    else if ds = ".nan".toList then pure (0 / 0)
    else if ds.contains ':' then floatSixties (← (splitColons ds).mapM floatValue)
    else floatValue ds
  return if sign = -1 then -size else size

end SwiftDecl.Yaml.Number
