import SwiftDecl.Text.Numeral
import SwiftDecl.Yaml.Cursor
import SwiftDecl.Yaml.Fault

/-!
# Names, tags and directives

Anchors and aliases are names after an ampersand or an asterisk. A tag is spelled in full between
angle brackets, or by a handle and a suffix. Directives stand before a document and can declare
handles.
-/

namespace SwiftDecl.Yaml

/-- A character of a name. -/
def isNameChar (c : Char) : Bool :=
  c.isAlphanum || c == '-' || c == '_'

/-- A character of the address that a tag is. -/
def isAddressChar (c : Char) : Bool :=
  c.isAlphanum || "-;/?:@&=+$,_.!~*'()[]".toList.contains c

/-- What can follow the name of an anchor or an alias. -/
def endsName : Option Char → Bool
  | none => true
  | some c => endsWord (some c) || "?:,]\x7d%@`".toList.contains c

namespace Cursor

/-- The name of an anchor or an alias, from its indicator on. -/
def scanName (c : Cursor) : Except Fault (String × Cursor) :=
  let (name, next) := c.advance.takeWhile isNameChar
  if name.isEmpty || !endsName next.peek then .error (.malformed .name)
  else .ok (String.ofList name, next)

/-- Two hexadecimal digits after a percent sign. -/
def scanByte (c : Cursor) : Except Fault (UInt8 × Cursor) :=
  match c.rest.take 3 with
  | ['%', high, low] =>
    match Text.hexNumber? [high, low] with
    | some n => .ok (UInt8.ofNat n, c.advanceBy 3)
    | none => .error (.malformed .address)
  | _ => .error (.malformed .address)

/-- Bytes after percent signs. -/
def scanBytes : (fuel : Nat) → Cursor → Except Fault (List UInt8 × Cursor)
  | 0, c => .ok ([], c)
  | fuel + 1, c =>
    if c.peek = some '%' then do
      let (b, next) ← c.scanByte
      let (bs, stop) ← scanBytes fuel next
      return (b :: bs, stop)
    else .ok ([], c)

/-- The parts of an address. -/
def scanAddressParts : (fuel : Nat) → Cursor → Except Fault (List Char × Cursor)
  | 0, c => .ok ([], c)
  | fuel + 1, c =>
    match c.rest with
    | '%' :: _ => do
      let (bytes, next) ← scanBytes c.left c
      let some part := String.fromUTF8? (ByteArray.mk bytes.toArray)
        | throw (.malformed .address)
      let (more, stop) ← scanAddressParts fuel next
      return (part.toList ++ more, stop)
    | ch :: _ =>
      if isAddressChar ch then do
        let (more, stop) ← scanAddressParts fuel c.advance
        return (ch :: more, stop)
      else .ok ([], c)
    | [] => .ok ([], c)

/-- An address, which is not empty. -/
def scanAddress (c : Cursor) : Except Fault (String × Cursor) := do
  let (address, next) ← scanAddressParts (c.left + 1) c
  if next.index = c.index then throw (.malformed .address)
  return (String.ofList address, next)

/-- A handle: an exclamation mark alone, or a name between two. -/
def scanHandle (c : Cursor) : Except Fault (String × Cursor) :=
  if c.peek ≠ some '!' then .error (.malformed .tag)
  else if c.peekAt 1 = some ' ' then .ok ("!", c.advance)
  else
    let (name, next) := c.advance.takeWhile isNameChar
    if next.peek = some '!' then .ok ("!" ++ String.ofList name ++ "!", next.advance)
    else .error (.malformed .tag)

/-- A tag from its exclamation mark on. -/
def scanTag (c : Cursor) : Except Fault (Token × Cursor) := do
  let (tag, next) ←
    if c.peekAt 1 = some '<' then do
      let (address, next) ← (c.advanceBy 2).scanAddress
      if next.peek ≠ some '>' then throw (.malformed .tag)
      pure (Token.tag none address, next.advance)
    else if endsWord (c.peekAt 1) then pure (Token.tag none "!", c.advance)
    else do
      let word := c.advance.rest.takeWhile fun ch => !endsField (some ch)
      let (handle, next) ←
        if word.contains '!' then c.scanHandle else pure ("!", c.advance)
      let (suffix, next) ← next.scanAddress
      pure (Token.tag (some handle) suffix, next)
  if !endsField next.peek then throw (.malformed .tag)
  return (tag, next)

/-- The number of a version of the notation. -/
def scanNumber (c : Cursor) : Except Fault (Nat × Cursor) :=
  let (digits, next) := c.takeWhile Char.isDigit
  if digits.isEmpty then .error (.malformed .directive)
  else
    match Text.numeral 10 digits with
    | .ok n => .ok (n.toNat, next)
    | .error f => .error (.value (.numeral f))

/-- The end of the line of a directive, which holds nothing but a comment. -/
def endDirective (c : Cursor) : Except Fault Cursor :=
  let c := c.skipSpaces.skipComment
  match c.lineBreak? with
  | some (_, next) => .ok next
  | none => if c.peek.isNone then .ok c else .error (.malformed .directive)

/-- What a directive says after its name. -/
def scanDirectiveValue (name : String) (c : Cursor) : Except Fault (Directive × Cursor) := do
  match name with
  | "YAML" =>
    let (major, next) ← c.skipSpaces.scanNumber
    if next.peek ≠ some '.' then throw (.malformed .directive)
    let (_, next) ← next.advance.scanNumber
    if !endsField next.peek then throw (.malformed .directive)
    return (.version major, next)
  | "TAG" =>
    let (handle, next) ← c.skipSpaces.scanHandle
    if next.peek ≠ some ' ' then throw (.malformed .directive)
    let (address, next) ← next.skipSpaces.scanAddress
    if !endsField next.peek then throw (.malformed .directive)
    return (.tag handle address, next)
  | _ => return (.other, c.skipLine)

/-- A directive from its percent sign on, with the end of its line. -/
def scanDirective (c : Cursor) : Except Fault (Directive × Cursor) := do
  let (name, next) := c.advance.takeWhile isNameChar
  if name.isEmpty || !endsField next.peek then throw (.malformed .directive)
  let (directive, next) ← scanDirectiveValue (String.ofList name) next
  return (directive, ← next.endDirective)

end Cursor

end SwiftDecl.Yaml
