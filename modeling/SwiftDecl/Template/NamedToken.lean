import SwiftDecl.Template.Token

/-!
# Tokens of a template with named arguments

In a template with named arguments a slot is a percent sign, the name of its argument, a colon
and a capital letter. A name starts with a small letter and goes on with letters, digits and
underscores. The tokens of a text end at its first malformed placeholder.
-/

namespace SwiftDecl.Template

/-- A character that a name can go on with. -/
def isNameChar (c : Char) : Bool :=
  c.isAlphanum || c == '_'

/-- A name of an argument. -/
def isArgumentName (name : String) : Bool :=
  match name.toList with
  | [] => false
  | c :: cs => c.isLower && cs.all isNameChar

/-- What is wrong with a placeholder that is to name its argument. -/
inductive NamedMalformed where
  | dangling
  | unknown (c : Char) (position : Nat)
deriving DecidableEq, Repr

/-- A token of a template with named arguments. The address of a slot is the name; its letter can be
one that no slot has. -/
abbrev NamedToken := TokenOf Char NamedMalformed

/-- Where a text is being read: outside a placeholder, after its percent sign, in the name that
started at a position, or after the colon that ends the name. The rest of a name after its first
character is kept with the last character first. -/
inductive Place where
  | outside
  | percent
  | name (first : Char) (start : Nat) (rest : List Char)
  | colon (first : Char) (start : Nat) (rest : List Char)
deriving DecidableEq, Repr

/-- The tokens of a text of which `position` characters have been read. -/
def NamedToken.scan : Place → (position : Nat) → List Char → List NamedToken
  | .outside, _, [] => []
  | .percent, _, [] => [.malformed .dangling]
  | .name first start _, _, [] => [.malformed (.unknown first start)]
  | .colon first start _, _, [] => [.malformed (.unknown first start)]
  | .outside, position, c :: cs =>
    if c = '%' then scan .percent (position + 1) cs
    else TokenOf.glue c (scan .outside (position + 1) cs)
  | .percent, position, c :: cs =>
    if c.isLower then scan (.name c position []) (position + 1) cs
    else
      match Directive.ofLetter? c with
      | some d => .directive d :: scan .outside (position + 1) cs
      | none => [.malformed (.unknown c position)]
  | .name first start rest, position, c :: cs =>
    if isNameChar c then scan (.name first start (c :: rest)) (position + 1) cs
    else if c = ':' then scan (.colon first start rest) (position + 1) cs
    else [.malformed (.unknown first start)]
  | .colon first start rest, position, c :: cs =>
    if c.isUpper then .slot c (first :: rest.reverse) :: scan .outside (position + 1) cs
    else [.malformed (.unknown first start)]

/-- The tokens of a template with named arguments. -/
def namedTokens (format : String) : List NamedToken :=
  NamedToken.scan .outside 0 format.toList

end SwiftDecl.Template
