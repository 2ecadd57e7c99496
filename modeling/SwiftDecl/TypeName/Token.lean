import SwiftDecl.Text.Blank
import SwiftDecl.Text.Word

/-!
# Tokens of type names

The text of a type name is cut into words, which are maximal runs of letters, numbers and
underscores, and marks, which are all other characters but white space. White space only
separates.
-/

namespace SwiftDecl.TypeName

/-- What a token is. -/
inductive Lexeme where
  | word (chars : List Char)
  | mark (c : Char)
deriving DecidableEq, Repr

/-- The characters of a lexeme. -/
def Lexeme.chars : Lexeme → List Char
  | word chars => chars
  | mark c => [c]

/-- A lexeme and the column at which it starts, counted from one. -/
structure Token where
  column : Nat
  lexeme : Lexeme
deriving DecidableEq, Repr

/-- Puts a character of a word before the tokens of the text after it. -/
def Token.glue (column : Nat) (c : Char) : List Token → List Token
  | ⟨next, .word chars⟩ :: ts =>
    if next = column + 1 then ⟨column, .word (c :: chars)⟩ :: ts
    else ⟨column, .word [c]⟩ :: ⟨next, .word chars⟩ :: ts
  | ts => ⟨column, .word [c]⟩ :: ts

/-- The tokens of a text whose first character has the given column. -/
def Token.scan : (column : Nat) → List Char → List Token
  | _, [] => []
  | column, c :: cs =>
    if Text.isBlank c then scan (column + 1) cs
    else if Text.isWordChar c then glue column c (scan (column + 1) cs)
    else ⟨column, .mark c⟩ :: scan (column + 1) cs

end SwiftDecl.TypeName
