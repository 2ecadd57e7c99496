/-!
# Shortest decimals

A finite binary floating-point number is written with the fewest digits that read back as the
same number, and of those with the digits nearest to it. The number is taken apart into an
integer and a power of two, and everything after that is exact arithmetic.
-/

namespace SwiftDecl.Decimal

/-- A positive binary number `mantissa * 2 ^ exponent`. -/
structure Binary where
  mantissa : Nat
  exponent : Int
deriving DecidableEq, Repr

/-- A floating-point number taken apart. -/
inductive Parts where
  | nan
  | infinity (negative : Bool)
  | zero (negative : Bool)
  | finite (negative : Bool) (magnitude : Binary)
deriving DecidableEq, Repr

/-- Takes a floating-point number apart. -/
def Parts.ofFloat (x : Float) : Parts :=
  let bits := x.toBits.toNat
  let negative : Bool := bits / Nat.pow 2 63 = 1
  let biased : Nat := bits / Nat.pow 2 52 % Nat.pow 2 11
  let fraction : Nat := bits % Nat.pow 2 52
  if biased = 2047 then
    if fraction = 0 then infinity negative else nan
  else if biased = 0 then
    if fraction = 0 then zero negative else finite negative ⟨fraction, -1074⟩
  else finite negative ⟨Nat.pow 2 52 + fraction, (biased : Int) - 1075⟩

/-- A fraction of natural numbers. -/
structure Ratio where
  num : Nat
  den : Nat
deriving DecidableEq, Repr

/-- The fraction `n * 2 ^ e`. -/
def Ratio.scaled (n : Nat) (e : Int) : Ratio :=
  ⟨n * Nat.pow 2 e.toNat, Nat.pow 2 (-e).toNat⟩

/-- The fraction `n * 10 ^ e`. -/
def Ratio.decimal (n : Nat) (e : Int) : Ratio :=
  ⟨n * Nat.pow 10 e.toNat, Nat.pow 10 (-e).toNat⟩

/-- The first fraction is smaller. -/
def Ratio.lt (a b : Ratio) : Bool :=
  a.num * b.den < b.num * a.den

/-- The first fraction is not larger. -/
def Ratio.le (a b : Ratio) : Bool :=
  a.num * b.den ≤ b.num * a.den

/-- The decimal reads back as the binary number: it lies between the midpoints to the
neighbours, which belong to the number if its mantissa is even. -/
def Binary.readsBack (b : Binary) (decimal : Ratio) : Bool :=
  let low := if b.mantissa = Nat.pow 2 52 ∧ -1074 < b.exponent
    then Ratio.scaled (4 * b.mantissa - 1) (b.exponent - 2)
    else Ratio.scaled (2 * b.mantissa - 1) (b.exponent - 1)
  let high := Ratio.scaled (2 * b.mantissa + 1) (b.exponent - 1)
  if b.mantissa % 2 = 0 then low.le decimal && decimal.le high
  else low.lt decimal && decimal.lt high

/-- The least `k` from `start` on for which `n * 10 ^ k` reaches `d`. -/
def scaleUp (n d : Nat) : (fuel start : Nat) → Nat
  | 0, start => start
  | fuel + 1, start => if d ≤ n * Nat.pow 10 start then start else scaleUp n d fuel (start + 1)

/-- The exponent of the leading decimal digit. -/
def Ratio.leading (v : Ratio) : Int :=
  if v.den ≤ v.num then ((toString (v.num / v.den)).length : Int) - 1
  else -(scaleUp v.num v.den 400 1 : Nat)

/-- Digits and the exponent of the leading one. -/
structure Digits where
  digits : List Char
  leading : Int
deriving DecidableEq, Repr

/-- The number `n * 10 ^ e` as digits, without zeros at the end. -/
def Digits.of (n : Nat) (e : Int) : Digits :=
  let all := (toString n).toList
  { digits := (all.reverse.dropWhile (· == '0')).reverse
    leading := e + all.length - 1 }

/-- The decimals with `count` digits on both sides of the number that read back, the nearer one
first; of two equally near ones the even. -/
def Binary.candidates (b : Binary) (count : Nat) : List Digits :=
  let v := Ratio.scaled b.mantissa b.exponent
  let e := v.leading - count + 1
  let scaled : Ratio := ⟨v.num * Nat.pow 10 (-e).toNat, v.den * Nat.pow 10 e.toNat⟩
  let below := scaled.num / scaled.den
  let twiceRest := 2 * (scaled.num % scaled.den)
  let belowFirst := twiceRest < scaled.den ∨ twiceRest = scaled.den ∧ below % 2 = 0
  let pair := if belowFirst then [below, below + 1] else [below + 1, below]
  (pair.filter fun n => b.readsBack (Ratio.decimal n e)).map fun n => Digits.of n e

/-- The shortest digits that read back. Seventeen are always enough. -/
def Binary.shortest (b : Binary) : Digits :=
  ((List.range 17).findSome? fun i => (b.candidates (i + 1)).head?).getD ⟨['0'], 0⟩

/-- The text of digits: positional from `10 ^ -4` up to `10 ^ 16`, else with an exponent of at
least two digits. A positional text has a digit after the point. -/
def Digits.text (d : Digits) : String :=
  let count : Int := d.digits.length
  if d.leading < -4 ∨ 16 ≤ d.leading then
    let fraction := if d.digits.length ≤ 1 then [] else '.' :: d.digits.drop 1
    let magnitude := toString d.leading.natAbs
    String.ofList (d.digits.take 1 ++ fraction) ++ (if d.leading < 0 then "e-" else "e+") ++
      (if magnitude.length < 2 then "0" ++ magnitude else magnitude)
  else if d.leading < 0 then
    "0." ++ String.ofList (List.replicate (-d.leading - 1).toNat '0' ++ d.digits)
  else if count ≤ d.leading + 1 then
    String.ofList (d.digits ++ List.replicate (d.leading + 1 - count).toNat '0') ++ ".0"
  else
    String.ofList (d.digits.take (d.leading + 1).toNat) ++ "." ++
      String.ofList (d.digits.drop (d.leading + 1).toNat)

/-- The text of a floating-point number. -/
def floatText (x : Float) : String :=
  match Parts.ofFloat x with
  | .nan => "nan"
  | .infinity negative => if negative then "-inf" else "inf"
  | .zero negative => if negative then "-0.0" else "0.0"
  | .finite negative b => (if negative then "-" else "") ++ b.shortest.text

end SwiftDecl.Decimal
