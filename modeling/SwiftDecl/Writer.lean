import SwiftDecl.Layout
import SwiftDecl.Text.Repeated

/-!
# The writer

The writer collects text and indents it. The indentation of a line is written before its first
character, so an empty line stays empty. Inside a documentation comment every line starts with
three slashes.
-/

namespace SwiftDecl

/-- The state of a writer. -/
structure Writer where
  /-- The text of one level of indentation. -/
  unit : String := "  "
  level : Int := 0
  /-- All text written so far. -/
  output : String := ""
  /-- Nothing has been written to the current line. -/
  atLineStart : Bool := true
  /-- Lines are written as documentation comments. -/
  inDoc : Bool := false
  /-- How many documentation comments have begun and not ended. -/
  openDocs : Nat := 0
deriving DecidableEq, Repr

namespace Writer

/-- The indentation of a line; there is none at a negative level. -/
def indentation (w : Writer) : String :=
  Text.copies w.level w.unit

/-- Writes one character. -/
def put (w : Writer) (c : Char) : Writer :=
  if c = '\n' then
    { w with
      output := (if w.inDoc && w.atLineStart then w.output ++ w.indentation ++ "///"
        else w.output).push '\n'
      atLineStart := true }
  else
    { w with
      output := (if w.atLineStart then
          w.output ++ w.indentation ++ (if w.inDoc then "/// " else "")
        else w.output).push c
      atLineStart := false }

/-- Writes a text. -/
def emit (w : Writer) (s : String) : Writer :=
  s.toList.foldl put w

/-- Raises the level. -/
def indent (w : Writer) (levels : Int := 1) : Writer :=
  { w with level := w.level + levels }

/-- Lowers the level, but not below zero. -/
def unindent (w : Writer) (levels : Int := 1) : Except LayoutFault Writer :=
  if w.level - levels < 0 then .error (.unindent levels w.level)
  else .ok { w with level := w.level - levels }

/-- Starts a documentation comment. -/
def beginDoc (w : Writer) : Writer :=
  { w with inDoc := true, openDocs := w.openDocs + 1 }

/-- Ends a documentation comment, and with it the line. -/
def endDoc (w : Writer) : Writer :=
  -- The line ends before the comment does, so that it still counts as a line of the comment.
  let w := if w.atLineStart then w else w.emit "\n"
  { w with inDoc := false, openDocs := w.openDocs - 1 }

/-- Gives up in the middle of a layout: documentation comments that it began are left. -/
def abandon (w : Writer) : Writer :=
  if w.openDocs = 0 then w else { w with inDoc := false, openDocs := 0 }

/-- Takes one step. -/
def step (w : Writer) : Step → Except LayoutFault Writer
  | .text s => .ok (w.emit s)
  | .indent => .ok w.indent
  | .unindent => w.unindent
  | .beginDoc => .ok w.beginDoc
  | .endDoc => .ok w.endDoc
  | .fail fault => .error fault

/-- Writes a layout, up to the first step that fails. What was written before it stays. -/
def write : Writer → Layout → Writer × Option LayoutFault
  | w, [] => (w, none)
  | w, s :: rest =>
    match w.step s with
    | .ok next => next.write rest
    -- The level stays where it is: only documentation is left on the way out.
    | .error fault => (w.abandon, some fault)

end Writer

/-- The text that a layout gives in a new writer. -/
def Layout.text (layout : Layout) : Except LayoutFault String :=
  match ({} : Writer).write layout with
  | (w, none) => .ok w.output
  | (_, some fault) => .error fault

end SwiftDecl
