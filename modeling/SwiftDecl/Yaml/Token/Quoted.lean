import SwiftDecl.Text.Hexadecimal
import SwiftDecl.Yaml.Cursor
import SwiftDecl.Yaml.Fault

/-!
# Quoted scalars

Between single quotes a quote is written twice and everything else stands for itself. Between
double quotes a backslash starts an escape. In both, a line break stands for a space, and empty
lines for line breaks.

An escape can also spell half of a surrogate pair. No text here holds such a half, so the scalar has
no value (`ValueFault.surrogate`), and the fault counts where the escape stands. What is said of
texts whose scalars all have values leaves these out.
-/

namespace SwiftDecl.Yaml.Quoted

/-- The character that a letter after a backslash stands for. -/
def escaped? : Char → Option Char
  | '0' => some '\x00'
  | 'a' => some '\x07'
  | 'b' => some '\x08'
  | 't' => some '\t'
  | '\t' => some '\t'
  | 'n' => some '\n'
  | 'v' => some '\x0b'
  | 'f' => some '\x0c'
  | 'r' => some '\r'
  | 'e' => some '\x1b'
  | ' ' => some ' '
  | '"' => some '"'
  | '\\' => some '\\'
  | '/' => some '/'
  | 'N' => some '\x85'
  | '_' => some '\xa0'
  | 'L' => some '\u2028'
  | 'P' => some '\u2029'
  | _ => none

/-- How many digits follow a letter that spells a character by its number. -/
def codeLength? : Char → Option Nat
  | 'x' => some 2
  | 'u' => some 4
  | 'U' => some 8
  | _ => none

/-- The character with a number. -/
def characterOf (code : Nat) : Except Fault Char :=
  if 0x10ffff < code then .error (.value (.character code))
  else if h : code.isValidChar then .ok (Char.ofNatAux code h)
  else .error (.value (.surrogate code))

/-- The empty lines after a line break in a quoted scalar. -/
def emptyLines : (fuel : Nat) → Cursor → Except Fault (List Char × Cursor)
  | 0, c => .ok ([], c)
  | fuel + 1, c =>
    if c.atSeparator then .error (.malformed .quote)
    else
      let c := c.skipWhile fun ch => ch == ' ' || ch == '\t'
      match c.lineBreak? with
      | none => .ok ([], c)
      | some (b, next) => do
        let (breaks, stop) ← emptyLines fuel next
        return (b :: breaks, stop)

/-- What a line break stands for: a space, if no empty line follows. -/
def foldBreak (b : Char) (emptyLines : List Char) : List Char :=
  if b ≠ '\n' then b :: emptyLines
  else if emptyLines.isEmpty then [' '] else emptyLines

/-- Blanks inside quotes. They stand for themselves, unless a line ends with them. -/
def blanks (c : Cursor) : Except Fault (List Char × Cursor) := do
  let (spaces, next) := c.takeWhile fun ch => ch == ' ' || ch == '\t'
  match next.lineBreak? with
  | some (b, start) =>
    let (breaks, stop) ← emptyLines (start.left + 1) start
    return (foldBreak b breaks, stop)
  | none =>
    if next.peek.isNone then throw (.malformed .quote)
    return (spaces, next)

/-- What a backslash and the characters after it stand for. The place is after the backslash. -/
def escape (c : Cursor) : Except Fault (List Char × Cursor) := do
  match c.lineBreak? with
  | some (_, next) => emptyLines (next.left + 1) next
  | none =>
    match c.rest with
    | [] => throw (.malformed .escape)
    | letter :: rest =>
      if let some ch := escaped? letter then
        return ([ch], c.advance)
      match codeLength? letter with
      | none => throw (.malformed .escape)
      | some length =>
        match Text.hexNumber? (rest.take length) with
        | some code =>
          if (rest.take length).length < length then throw (.malformed .escape)
          return ([← characterOf code], c.advanceBy (length + 1))
        | none => throw (.malformed .escape)

/-- The text up to the closing quote, and the place after it. -/
def body (double : Bool) : (fuel : Nat) → Cursor → Except Fault (List Char × Cursor)
  | 0, _ => .error (.malformed .quote)
  | fuel + 1, c =>
    match c.rest with
    | [] => .error (.malformed .quote)
    | ch :: rest => do
      if ch = '\'' ∧ !double ∧ rest.head? = some '\'' then
        let (more, stop) ← body double fuel (c.advanceBy 2)
        return (ch :: more, stop)
      else if ch = (if double then '"' else '\'') then
        return ([], c.advance)
      else if ch = '\\' ∧ double then
        let (part, next) ← escape c.advance
        let (more, stop) ← body double fuel next
        return (part ++ more, stop)
      else if endsWord (some ch) then
        let (part, next) ← blanks c
        let (more, stop) ← body double fuel next
        return (part ++ more, stop)
      else
        let (more, stop) ← body double fuel c.advance
        return (ch :: more, stop)

/-- A quoted scalar, from its opening quote on. -/
def scan (double : Bool) (c : Cursor) : Except Fault (String × Cursor) := do
  let (text, next) ← body double c.left c.advance
  return (String.ofList text, next)

end SwiftDecl.Yaml.Quoted
