/-!
# Bytes in base 64

Four characters spell three bytes; one or two equals signs fill up the last four. Characters
outside of the alphabet are left aside.
-/

namespace SwiftDecl.Yaml.Binary

/-- The value of a character of the alphabet. -/
def sextet? (c : Char) : Option Nat :=
  if 'A' ≤ c ∧ c ≤ 'Z' then some (c.toNat - 'A'.toNat)
  else if 'a' ≤ c ∧ c ≤ 'z' then some (c.toNat - 'a'.toNat + 26)
  else if c.isDigit then some (c.toNat - '0'.toNat + 52)
  else if c = '+' then some 62
  else if c = '/' then some 63
  else none

/-- The bytes that characters spell. `held` holds the sextets of the current four, and `fill`
counts the equals signs after them. -/
def bytesFrom (held : List Nat) (fill : Nat) : List Char → Option (List UInt8)
  | [] => if held.isEmpty then some [] else none
  | '=' :: cs =>
    match held with
    | [a, b] =>
      if 1 ≤ fill then some [UInt8.ofNat (a * 4 + b / 16)]
      else bytesFrom held (fill + 1) cs
    | [a, b, c] => some [UInt8.ofNat (a * 4 + b / 16), UInt8.ofNat (b * 16 + c / 4)]
    | _ => bytesFrom held fill cs
  | ch :: cs =>
    match sextet? ch, held with
    | none, _ => bytesFrom held fill cs
    | some d, [a, b, c] =>
      (bytesFrom [] 0 cs).map fun rest =>
        UInt8.ofNat (a * 4 + b / 16) :: UInt8.ofNat (b * 16 + c / 4) ::
          UInt8.ofNat (c * 64 + d) :: rest
    | some d, held => bytesFrom (held ++ [d]) 0 cs

/-- The bytes that a text spells. -/
def bytes? (text : String) : Option (List UInt8) :=
  if text.toList.all fun c => c.toNat < 128 then bytesFrom [] 0 text.toList else none

end SwiftDecl.Yaml.Binary
