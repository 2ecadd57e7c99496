/-!
# Attributes

An attribute is written with an at sign, and with its arguments, if it has any, in parentheses.
-/

namespace SwiftDecl

/-- An attribute of a declaration. Its name is kept without the at sign. -/
structure Attribute where
  name : String
  arguments : List String := []
deriving DecidableEq, Repr

/-- A text without the at sign at its front. -/
def dropAtSign (s : String) : String :=
  match s.toList with
  | '@' :: cs => String.ofList cs
  | _ => s

/-- The attribute with a name, which may be given with its at sign. -/
def Attribute.of (name : String) (arguments : List String) : Attribute :=
  { name := dropAtSign name, arguments }

/-- The text of an attribute. -/
def Attribute.text (a : Attribute) : String :=
  if a.arguments.isEmpty then "@" ++ a.name
  else "@" ++ a.name ++ "(" ++ ", ".intercalate a.arguments ++ ")"

end SwiftDecl
