import SwiftDecl.Text.Repeated
import SwiftDecl.Writer

/-!
# Writing within bounds

The indentation of a line is the unit written as often as the level says, and for a level far from
zero there is no such text. A writer that watches the bounds stops at the first line that it
cannot indent. Up to there it writes what the writer writes.
-/

namespace SwiftDecl

/-- Why a layout is not written to its end: it cannot be, or a line cannot be indented. -/
inductive WriteFault where
  | layout (fault : LayoutFault)
  | indentation (fault : Text.TooMany)
deriving DecidableEq, Repr

namespace Writer

/-- A character is written after the indentation of its line. -/
def indents (w : Writer) (c : Char) : Bool :=
  w.atLineStart && (c != '\n' || w.inDoc)

/-- Writes characters, up to the first that needs an indentation which there is not. -/
def emitBounded : Writer → List Char → Writer × Option Text.TooMany
  | w, [] => (w, none)
  | w, c :: cs =>
    match if w.indents c then Text.copiesFault? w.level w.unit else none with
    | some fault => (w, some fault)
    | none => emitBounded (w.put c) cs

/-- Takes one step within bounds. The end of a comment indents nothing. -/
def stepBounded (w : Writer) : Step → Writer × Option WriteFault
  | .text s => (w.emitBounded s.toList).map id (Option.map .indentation)
  | s =>
    match w.step s with
    | .ok next => (next, none)
    | .error fault => (w, some (.layout fault))

/-- Writes a layout within bounds, up to the first step that fails. What was written before it
stays. -/
def writeBounded : Writer → Layout → Writer × Option WriteFault
  | w, [] => (w, none)
  | w, s :: rest =>
    match w.stepBounded s with
    | (next, none) => next.writeBounded rest
    | (last, some fault) => (last.abandon, some fault)

end Writer

end SwiftDecl
