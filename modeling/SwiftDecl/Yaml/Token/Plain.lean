import SwiftDecl.Yaml.Cursor

/-!
# Plain scalars

A plain scalar is written without quotes and can go on over several lines. It ends at a colon
with a blank after it, at a comment, at a line that is indented less than its block, and, between
brackets, at a comma or a bracket.
-/

namespace SwiftDecl.Yaml.Plain

/-- A character that ends a plain scalar between brackets. -/
def isFlowMark (c : Char) : Bool :=
  c == ',' || c == '[' || c == ']' || c == '\x7b' || c == '\x7d'

/-- The text ends before a character `c` that is followed by `next`. -/
def stops (flow : Bool) (c : Char) (next : Option Char) : Bool :=
  endsWord (some c) ||
    (c == ':' && (endsWord next || (flow && next.any isFlowMark))) ||
    (flow && (isFlowMark c || c == '?'))

/-- The text up to the next blank or mark that ends it. -/
def word (flow : Bool) : List Char → List Char
  | [] => []
  | c :: cs => if stops flow c cs.head? then [] else c :: word flow cs

/-- The empty lines and the indentation of a scalar that goes on in a further line. The result is
nothing where a separator of documents ends the scalar. -/
def emptyLines : (fuel : Nat) → Cursor → Option (List Char) × Cursor
  | 0, c => (some [], c)
  | fuel + 1, c =>
    if c.peek = some ' ' then emptyLines fuel c.advance
    else
      match c.lineBreak? with
      | none => (some [], c)
      | some (b, next) =>
        if next.atSeparator then (none, next)
        else
          let (breaks, stop) := emptyLines fuel next
          (breaks.map (b :: ·), stop)

/-- What a line break stands for: a space, if no empty line follows. -/
def foldBreak (b : Char) (emptyLines : List Char) : List Char :=
  if b ≠ '\n' then b :: emptyLines
  else if emptyLines.isEmpty then [' '] else emptyLines

/-- The blanks between two words: what they stand for, the place after them, and whether they
hold a line break. -/
def blanks (c : Cursor) : List Char × Cursor × Bool :=
  let (spaces, next) := c.takeWhile (· == ' ')
  match next.lineBreak? with
  | none => (spaces, next, false)
  | some (b, start) =>
    if start.atSeparator then ([], start, true)
    else
      match emptyLines (start.left + 1) start with
      | (none, stop) => ([], stop, true)
      | (some breaks, stop) => (foldBreak b breaks, stop, true)

/-- The words from a place on, with the blanks between them, the place after them and whether a
line break was passed last. -/
def words (flow : Bool) (indent : Int) :
    (fuel : Nat) → (passed : Bool) → Cursor → List Char × Cursor × Bool
  | 0, passed, c => ([], c, passed)
  | fuel + 1, passed, c =>
    let first := word flow c.rest
    if c.peek = some '#' ∨ first = [] then ([], c, passed)
    else
      let (spaces, next, passed) := blanks (c.advanceBy first.length)
      if spaces = [] ∨ next.peek = some '#' ∨ (!flow ∧ (next.column : Int) < indent) then
        (first, next, passed)
      else
        let (more, stop, passed) := words flow indent fuel passed next
        (if more = [] then first else first ++ spaces ++ more, stop, passed)

/-- A plain scalar. -/
def scan (flow : Bool) (indent : Int) (c : Cursor) : String × Cursor × Bool :=
  let (text, stop, passed) := words flow indent (c.left + 1) false c
  (String.ofList text, stop, passed)

end SwiftDecl.Yaml.Plain
