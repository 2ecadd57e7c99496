import SwiftDecl.Text.Blank
import SwiftDecl.Text.Hexadecimal
import SwiftDecl.Text.Quoted
import SwiftDecl.Text.Word

/-!
# Numerals

Whole numbers as texts: digits of any script, with a sign before them and blanks around them. The
digits can start with the mark of their base. In a base that is no power of two a numeral has at
most `digitLimit` digits, since the work of reading or writing one grows with the square of its
length.
-/

namespace SwiftDecl.Text

/-- How many digits a decimal numeral can have. -/
def digitLimit : Nat := 4300

/-- Why a text is no numeral. -/
inductive NumeralFault where
  | literal (text : String) (base : Nat)
  | tooLong (digits : Nat)
deriving DecidableEq, Repr

/-- How much of a quoted text a message about a numeral holds. -/
def shownLength : Nat := 200

/-- The text of a fault. -/
def NumeralFault.message : NumeralFault → String
  | literal text base =>
    "invalid literal for int() with base " ++ toString base ++ ": " ++
      String.ofList ((quoted text).toList.take shownLength)
  | tooLong digits =>
    "Exceeds the limit (" ++ toString digitLimit ++ " digits) for integer string conversion: " ++
      "value has " ++ toString digits ++
      " digits; use sys.set_int_max_str_digits() to increase the limit"

/-- The text of a fault that says that a number has too many digits to be written. -/
def unwritableNumber : String :=
  "Exceeds the limit (" ++ toString digitLimit ++ " digits) for integer string conversion; " ++
    "use sys.set_int_max_str_digits() to increase the limit"

/-- The number can be written as a decimal numeral. -/
def isWritable (i : Int) : Bool :=
  i.natAbs < Nat.pow 10 digitLimit

/-- A decimal digit of any script as one of ours, and white space outside of them as a space. -/
def plainChar (c : Char) : Char :=
  if c.val < 128 then c
  else if isBlank c then ' '
  else
    match decimalValue? c with
    | some d => Nat.digitChar d
    | none => c

/-- A character that can stand around a numeral: a space, or a control that moves the place of
writing. -/
def isPadding (c : Char) : Bool :=
  c == ' ' || ('\t' ≤ c && c ≤ '\r')

/-- The sign of a text, and the text without it. -/
def splitSign : List Char → Int × List Char
  | '-' :: cs => (-1, cs)
  | '+' :: cs => (1, cs)
  | cs => (1, cs)

/-- Digits may start with the mark of their base. -/
def dropBaseMark (base : Nat) : List Char → List Char
  | '0' :: mark :: cs =>
    if (base = 2 ∧ (mark = 'b' ∨ mark = 'B')) ∨ (base = 8 ∧ (mark = 'o' ∨ mark = 'O')) ∨
        (base = 16 ∧ (mark = 'x' ∨ mark = 'X')) then cs
    else '0' :: mark :: cs
  | cs => cs

/-- The value of a digit in a base up to sixteen. -/
def digitValue? (base : Nat) (c : Char) : Option Nat :=
  (hexValue? c).filter (· < base)

/-- The whole number that a text spells in a base up to sixteen. -/
def numeral (base : Nat) (cs : List Char) : Except NumeralFault Int :=
  let (sign, ds) := splitSign ((cs.map plainChar).dropWhile isPadding)
  let ds := dropBaseMark base ds
  let isDigit c := (digitValue? base c).isSome
  let digits := ds.takeWhile isDigit
  -- The digits are counted before anything is said about what follows them.
  if base = 10 ∧ digitLimit < digits.length then .error (.tooLong digits.length)
  else if digits.isEmpty ∨ !(ds.dropWhile isDigit).all isPadding then
    .error (.literal (String.ofList cs) base)
  else .ok (sign * (digits.foldl (fun n c => n * base + (digitValue? base c).getD 0) 0 : Nat))

end SwiftDecl.Text
