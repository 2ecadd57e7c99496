/-!
# String literals

A text as a Swift string literal: between double quotes, with the backslash, the double quote
and the controls for newline, tab and carriage return escaped.
-/

namespace SwiftDecl.Text

/-- One character of a string literal. -/
def literalChar : Char → List Char
  | '\\' => ['\\', '\\']
  | '"' => ['\\', '"']
  | '\n' => ['\\', 'n']
  | '\t' => ['\\', 't']
  | '\r' => ['\\', 'r']
  | c => [c]

/-- The string literal of a text. -/
def stringLiteral (s : String) : String :=
  String.ofList ('"' :: s.toList.flatMap literalChar ++ ['"'])

end SwiftDecl.Text
