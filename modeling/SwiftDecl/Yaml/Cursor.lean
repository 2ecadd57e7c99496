/-!
# Places in a text

A cursor is a place in a text that is read from front to back. It counts lines and columns,
since the structure of a document follows from the columns at which its parts start.
-/

namespace SwiftDecl.Yaml

/-- A character that ends a line. -/
def isBreak (c : Char) : Bool :=
  c == '\n' || c == '\r' || c == '\x85' || c == '\u2028' || c == '\u2029'

/-- A character that a document may hold. -/
def isAllowed (c : Char) : Bool :=
  c == '\t' || c == '\n' || c == '\r' || c == '\x85' || (' ' ≤ c && c ≤ '~') ||
    ('\u00a0' ≤ c && c ≤ '\ufffd') || '\uffff' < c

/-- The mark that a text can start with. It takes no column. -/
def byteOrderMark : Char := '\ufeff'

/-- A space, the end of the line or of the text. -/
def endsField : Option Char → Bool
  | none => true
  | some c => c == ' ' || isBreak c

/-- A space or a tab, the end of the line or of the text. -/
def endsWord : Option Char → Bool
  | none => true
  | some c => c == ' ' || c == '\t' || isBreak c

/-- A place in a text. -/
structure Cursor where
  /-- What follows. -/
  rest : List Char
  index : Nat := 0
  line : Nat := 0
  column : Nat := 0
  /-- How many characters the text has. -/
  size : Nat := rest.length
deriving DecidableEq, Repr

namespace Cursor

/-- How many characters follow. -/
def left (c : Cursor) : Nat :=
  c.size - c.index

/-- The next character. -/
def peek (c : Cursor) : Option Char :=
  c.rest.head?

/-- The character some places ahead. -/
def peekAt (c : Cursor) (n : Nat) : Option Char :=
  c.rest[n]?

/-- The place after the next character. A carriage return and a line feed end one line. -/
def advance (c : Cursor) : Cursor :=
  match c.rest with
  | [] => c
  | '\r' :: '\n' :: rest => { c with rest := '\n' :: rest, index := c.index + 1 }
  | ch :: rest =>
    if isBreak ch then
      { c with rest, index := c.index + 1, line := c.line + 1, column := 0 }
    else
      { c with rest, index := c.index + 1,
               column := if ch = byteOrderMark then c.column else c.column + 1 }

/-- The place after some characters. -/
def advanceBy : Nat → Cursor → Cursor
  | 0, c => c
  | n + 1, c => advanceBy n c.advance

/-- The place after the characters of a class. -/
def skipWhile (p : Char → Bool) (c : Cursor) : Cursor :=
  c.advanceBy (c.rest.takeWhile p).length

/-- The characters of a class, and the place after them. -/
def takeWhile (p : Char → Bool) (c : Cursor) : List Char × Cursor :=
  (c.rest.takeWhile p, c.skipWhile p)

/-- The place after spaces. -/
def skipSpaces (c : Cursor) : Cursor :=
  c.skipWhile (· == ' ')

/-- The place at the end of the line. -/
def skipLine (c : Cursor) : Cursor :=
  c.skipWhile fun ch => !isBreak ch

/-- A comment is left aside. -/
def skipComment (c : Cursor) : Cursor :=
  if c.peek = some '#' then c.skipLine else c

/-- The line break at this place, as it counts in a value, and the place after it. -/
def lineBreak? (c : Cursor) : Option (Char × Cursor) :=
  match c.rest with
  | '\r' :: '\n' :: _ => some ('\n', c.advanceBy 2)
  | ch :: _ =>
    if ch = '\n' ∨ ch = '\r' ∨ ch = '\x85' then some ('\n', c.advance)
    else if isBreak ch then some (ch, c.advance)
    else none
  | [] => none

/-- A line that starts here separates documents: with three hyphens or three full stops. -/
def atSeparator (c : Cursor) : Bool :=
  match c.rest with
  | '-' :: '-' :: '-' :: rest => endsWord rest.head?
  | '.' :: '.' :: '.' :: rest => endsWord rest.head?
  | _ => false

end Cursor

end SwiftDecl.Yaml
