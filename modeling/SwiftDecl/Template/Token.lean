import SwiftDecl.Part
import SwiftDecl.Text.Word

/-!
# Tokens of a template

A template is text with placeholders. A placeholder starts with a percent sign and ends with the
letter of a slot or of a directive; a slot can name the position of its argument by digits in
between. The tokens of a text end at its first malformed placeholder.
-/

namespace SwiftDecl.Template

/-- What is wrong with a placeholder. -/
inductive Malformed where
  | dangling
  | indexedDirective (d : Directive)
  | unknownLetter (c : Char)
deriving DecidableEq, Repr

/-- A token of a template, whatever the letters of its slots are read as and whatever can be wrong
with a placeholder. The address of a slot is what stands between the percent sign and the letter. -/
inductive TokenOf (letter fault : Type) where
  | text (chars : List Char)
  | directive (d : Directive)
  | slot (s : letter) (address : List Char)
  | malformed (m : fault)
deriving DecidableEq, Repr

/-- Puts a character of text before the tokens of what follows it. -/
def TokenOf.glue {letter fault : Type} (c : Char) :
    List (TokenOf letter fault) → List (TokenOf letter fault)
  | .text chars :: ts => .text (c :: chars) :: ts
  | ts => .text [c] :: ts

/-- A token of a template without names. The digits that are the address of a slot are none if it
takes the next argument. -/
abbrev Token := TokenOf Slot Malformed

/-- The tokens of a text. Inside a placeholder, `digits` holds the digits since its percent sign,
the last one first. -/
def Token.scan : (digits : Option (List Char)) → List Char → List Token
  | none, [] => []
  | some _, [] => [.malformed .dangling]
  | none, c :: cs => if c = '%' then scan (some []) cs else TokenOf.glue c (scan none cs)
  | some digits, c :: cs =>
    if Text.isDigit c then scan (some (c :: digits)) cs
    else
      match Slot.ofLetter? c, Directive.ofLetter? c with
      | some s, _ => .slot s digits.reverse :: scan none cs
      | none, some d =>
        if digits.isEmpty then .directive d :: scan none cs
        else [.malformed (.indexedDirective d)]
      | none, none => [.malformed (.unknownLetter c)]

/-- The tokens of a template. -/
def tokens (format : String) : List Token :=
  Token.scan none format.toList

/-- A text that as a template stands for itself: each percent sign is doubled. -/
def escapePercent (s : String) : String :=
  String.ofList (s.toList.flatMap fun c => if c = '%' then ['%', '%'] else [c])

end SwiftDecl.Template
