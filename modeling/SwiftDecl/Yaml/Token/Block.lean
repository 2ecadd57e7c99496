import SwiftDecl.Yaml.Cursor
import SwiftDecl.Yaml.Fault

/-!
# Block scalars

A block scalar is a block of indented lines. A literal block keeps its line breaks; in a folded
block a line break between two lines that start with no blank stands for a space. The header says
what becomes of the line breaks at the end, and can tell the indentation.
-/

namespace SwiftDecl.Yaml.Block

/-- What becomes of the line breaks at the end of a block: all go, one stays, or all stay. -/
inductive Chomping where
  | strip
  | clip
  | keep
deriving DecidableEq, Repr

/-- What the header of a block says. -/
structure Header where
  chomping : Chomping := .clip
  /-- The indentation relative to the surrounding block. -/
  increment : Option Nat := none
deriving DecidableEq, Repr

/-- The indicator of a chomping. -/
def chomping? : Char → Option Chomping
  | '+' => some .keep
  | '-' => some .strip
  | _ => none

/-- The indicator of an indentation, which is at least one. -/
def increment? (c : Char) : Except Fault (Option Nat) :=
  if c = '0' then .error (.malformed .blockHeader)
  else if c.isDigit then .ok (some (c.toNat - '0'.toNat))
  else .ok none

/-- Reads the indicators of a header, in either order. -/
def header (c : Cursor) : Except Fault (Header × Cursor) := do
  match c.rest with
  | [] => return ({}, c)
  | first :: rest =>
    match chomping? first with
    | some chomping =>
      match rest with
      | [] => return ({ chomping }, c.advance)
      | second :: _ =>
        match ← increment? second with
        | some n => return ({ chomping, increment := some n }, c.advanceBy 2)
        | none => return ({ chomping }, c.advance)
    | none =>
      match ← increment? first with
      | none => return ({}, c)
      | some n =>
        match rest.head?.bind chomping? with
        | some chomping => return ({ chomping, increment := some n }, c.advanceBy 2)
        | none => return ({ increment := some n }, c.advance)

/-- The end of the line of a header, which holds nothing but a comment. -/
def headerEnd (c : Cursor) : Except Fault Cursor :=
  if !endsField c.peek then .error (.malformed .blockHeader)
  else
    let c := c.skipSpaces.skipComment
    match c.lineBreak? with
    | some (_, next) => .ok next
    | none => if c.peek.isNone then .ok c else .error (.malformed .blockHeader)

/-- The empty lines at the front of a block, with the widest indentation among them and the first
line. -/
def leadingLines : (fuel : Nat) → (widest : Nat) → Cursor → List Char × Nat × Cursor
  | 0, widest, c => ([], widest, c)
  | fuel + 1, widest, c =>
    if c.peek = some ' ' then
      let next := c.advance
      leadingLines fuel (max widest next.column) next
    else
      match c.lineBreak? with
      | none => ([], widest, c)
      | some (b, next) =>
        let (breaks, widest, stop) := leadingLines fuel widest next
        (b :: breaks, widest, stop)

/-- The place after spaces up to a column. -/
def skipIndentation (indent : Nat) (c : Cursor) : Cursor :=
  c.advanceBy ((c.rest.take (indent - c.column)).takeWhile (· == ' ')).length

/-- The empty lines before a line of the block. -/
def emptyLines (indent : Nat) : (fuel : Nat) → Cursor → List Char × Cursor
  | 0, c => ([], c)
  | fuel + 1, c =>
    let c := skipIndentation indent c
    match c.lineBreak? with
    | none => ([], c)
    | some (b, next) =>
      let (breaks, stop) := emptyLines indent fuel next
      (b :: breaks, stop)

/-- A line starts with a blank. -/
def startsBlank (c : Cursor) : Bool :=
  c.peek.any fun ch => ch == ' ' || ch == '\t'

/-- A line of the block starts here. -/
def atLine (indent : Nat) (c : Cursor) : Bool :=
  c.column == indent && c.peek.isSome

/-- What the line breaks at the end of a block leave. -/
def chomped (chomping : Chomping) (lineBreak breaks : List Char) : List Char :=
  match chomping with
  | .strip => []
  | .clip => lineBreak
  | .keep => lineBreak ++ breaks

/-- The lines of a block. The empty lines before the place are given. -/
def lines (folded : Bool) (chomping : Chomping) (indent : Nat) :
    (fuel : Nat) → (lineBreak breaks : List Char) → Cursor → List Char × Cursor
  | 0, lineBreak, breaks, c => (chomped chomping lineBreak breaks, c)
  | fuel + 1, lineBreak, breaks, c =>
    if !atLine indent c then (chomped chomping lineBreak breaks, c)
    else
      let (line, stop) := c.takeWhile fun ch => !isBreak ch
      let (lineBreak, next) : List Char × Cursor :=
        match stop.lineBreak? with
        | some (b, next) => ([b], next)
        | none => ([], stop)
      let (after, next) := emptyLines indent (next.left + 1) next
      let between :=
        if !atLine indent next then []
        else if folded && lineBreak == ['\n'] && !startsBlank c && !startsBlank next then
          if after.isEmpty then [' '] else []
        else lineBreak
      let (more, stop) := lines folded chomping indent fuel lineBreak after next
      (breaks ++ line ++ between ++ more, stop)

/-- A block scalar, from its indicator on, in a block with an indentation. -/
def scan (folded : Bool) (indent : Int) (c : Cursor) : Except Fault (String × Cursor) := do
  let (header, c) ← header c.advance
  let c ← headerEnd c
  let least := (max (indent + 1) 1).toNat
  let fuel := c.left + 1
  match header.increment with
  | some n =>
    let indent := least + n - 1
    let (breaks, c) := emptyLines indent fuel c
    let (text, stop) := lines folded header.chomping indent fuel [] breaks c
    return (String.ofList text, stop)
  | none =>
    let (breaks, widest, c) := leadingLines fuel 0 c
    let (text, stop) := lines folded header.chomping (max least widest) fuel [] breaks c
    return (String.ofList text, stop)

end SwiftDecl.Yaml.Block
