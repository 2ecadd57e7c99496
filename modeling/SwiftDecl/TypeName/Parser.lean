import SwiftDecl.Text.Quoted
import SwiftDecl.TypeName
import SwiftDecl.TypeName.Token

/-!
# Reading type names

A type is a primary type and any number of question marks. A primary type is a bracketed array
or dictionary, or a dotted name with generic arguments in angle brackets. What is read has no
modules and no generic parameters. An error tells the column of the first token that does not
fit. Types can be nested to any depth: the reader is taken to recurse without a limit, so that depth
alone is never an error.
-/

namespace SwiftDecl.TypeName

/-- Why a text is no type name. -/
inductive Problem where
  | nothing
  | unexpected (found : Char)
  | markMissing (mark : Char) (found : Option Char)
  | identifierMissing (found : Option Char)
  | leadingDigit (word : List Char)
deriving DecidableEq, Repr

/-- The text is no type name from the column on, counted from one. -/
structure ParseError where
  column : Nat
  problem : Problem
deriving DecidableEq, Repr

/-- How an error shows the character that it found. -/
def Problem.shown : Option Char → String
  | some c => Text.quotedChar c
  | none => "end of input"

/-- The text of a problem. -/
def Problem.text : Problem → String
  | nothing => "Expected a type name"
  | unexpected found => "Unexpected character " ++ Text.quotedChar found
  | markMissing mark found => "Expected " ++ Text.quotedChar mark ++ ", found " ++ shown found
  | identifierMissing found => "Expected an identifier, found " ++ shown found
  | leadingDigit word =>
    "Identifier cannot start with a digit: " ++ Text.quoted (String.ofList word)

/-- The text of the error: where and why. -/
def ParseError.message (e : ParseError) : String :=
  "Column " ++ toString e.column ++ ": " ++ e.problem.text

/-- The first character of the next token. -/
def nextChar : List Token → Option Char
  | [] => none
  | t :: _ => t.lexeme.chars.head?

/-- The column of the next token; `stop` is the column after the text. -/
def nextColumn (stop : Nat) : List Token → Nat
  | [] => stop
  | t :: _ => t.column

/-- Reads a mark. -/
def parseMark (stop : Nat) (mark : Char) : List Token → Except ParseError (List Token)
  | ⟨column, .mark c⟩ :: ts =>
    if c = mark then .ok ts else .error ⟨column, .markMissing mark (some c)⟩
  | ts => .error ⟨nextColumn stop ts, .markMissing mark (nextChar ts)⟩

/-- Reads an identifier: a word that does not start with a digit. -/
def parseIdentifier (stop : Nat) : List Token → Except ParseError (String × List Token)
  | ⟨column, .word chars⟩ :: ts =>
    if chars.head?.any Text.isDigit then .error ⟨column, .leadingDigit chars⟩
    else .ok (String.ofList chars, ts)
  | ts => .error ⟨nextColumn stop ts, .identifierMissing (nextChar ts)⟩

/-- Reads the names that follow dots. -/
def parseNested (stop : Nat) : List Token → Except ParseError (List String × List Token)
  | ⟨_, .mark '.'⟩ :: ⟨column, .word chars⟩ :: ts => do
    let (name, _) ← parseIdentifier stop [⟨column, .word chars⟩]
    let (names, ts) ← parseNested stop ts
    return (name :: names, ts)
  | ⟨_, .mark '.'⟩ :: ts => .error ⟨nextColumn stop ts, .identifierMissing (nextChar ts)⟩
  | ts => .ok ([], ts)

/-- Reads a dotted name. -/
def parseDeclared (stop : Nat) (ts : List Token) :
    Except ParseError (DeclaredName × List Token) := do
  let (name, ts) ← parseIdentifier stop ts
  let (names, ts) ← parseNested stop ts
  return ({ names := name :: names }, ts)

/-- Wraps a type once for each question mark that follows it. -/
def wrapOptional (type : TypeName) : List Token → TypeName × List Token
  | ⟨_, .mark '?'⟩ :: ts => wrapOptional (.optional type) ts
  | ts => (type, ts)

mutual

/-- Reads a type. `fuel` bounds the depth of nesting and the number of generic arguments; more
than the number of tokens is always enough. -/
def parseType (stop : Nat) : (fuel : Nat) → List Token → Except ParseError (TypeName × List Token)
  | 0, ts => .error ⟨nextColumn stop ts, .nothing⟩
  | fuel + 1, ⟨_, .mark '['⟩ :: ts => do
    let (first, ts) ← parseType stop fuel ts
    match ts with
    | ⟨_, .mark ':'⟩ :: ts =>
      let (value, ts) ← parseType stop fuel ts
      let ts ← parseMark stop ']' ts
      return wrapOptional (.dictionary first value) ts
    | ts =>
      let ts ← parseMark stop ']' ts
      return wrapOptional (.array first) ts
  | fuel + 1, ts => do
    let (raw, ts) ← parseDeclared stop ts
    match ts with
    | ⟨_, .mark '<'⟩ :: ts =>
      let (arguments, ts) ← parseArguments stop fuel ts
      return wrapOptional (.parameterized raw arguments) ts
    | ts => return wrapOptional (.declared raw) ts

/-- Reads generic arguments up to the closing angle bracket. -/
def parseArguments (stop : Nat) :
    (fuel : Nat) → List Token → Except ParseError (List TypeName × List Token)
  | 0, ts => .error ⟨nextColumn stop ts, .nothing⟩
  | fuel + 1, ts => do
    let (argument, ts) ← parseType stop fuel ts
    match ts with
    | ⟨_, .mark ','⟩ :: ts =>
      let (arguments, ts) ← parseArguments stop fuel ts
      return (argument :: arguments, ts)
    | ts =>
      let ts ← parseMark stop '>' ts
      return ([argument], ts)

end

/-- Reads the characters of a type name, all of them. -/
def parseChars (cs : List Char) : Except ParseError TypeName := do
  let stop := cs.length + 1
  let ts := Token.scan 1 cs
  if ts.isEmpty then
    throw ⟨stop, .nothing⟩
  let (type, rest) ← parseType stop (ts.length + 1) ts
  match rest with
  | [] => return type
  | t :: _ => throw ⟨t.column, .unexpected (t.lexeme.chars.headD ' ')⟩

/-- Reads the text of a type name. -/
def parse (text : String) : Except ParseError TypeName :=
  parseChars text.toList

end SwiftDecl.TypeName
