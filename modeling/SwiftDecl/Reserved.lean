/-!
# Reserved words

The words that Swift reserves for declarations, statements, expressions and types. A name that
is one of them is written between backticks.
-/

namespace SwiftDecl

/-- The reserved words of declarations. -/
def declarationWords : List String :=
  ["associatedtype", "class", "deinit", "enum", "extension", "fileprivate", "func", "import",
   "init", "inout", "internal", "let", "open", "operator", "private", "precedencegroup",
   "protocol", "public", "rethrows", "static", "struct", "subscript", "typealias", "var"]

/-- The reserved words of statements. -/
def statementWords : List String :=
  ["break", "case", "catch", "continue", "default", "defer", "do", "else", "fallthrough", "for",
   "guard", "if", "in", "repeat", "return", "throw", "switch", "where", "while"]

/-- The reserved words of expressions and types. -/
def expressionWords : List String :=
  ["Any", "as", "await", "false", "is", "nil", "self", "Self", "super", "throws", "true", "try"]

/-- A word that cannot stand as a name by itself. -/
def isReserved (word : String) : Bool :=
  declarationWords.contains word || statementWords.contains word || expressionWords.contains word

/-- A name as it is written in source text: between backticks if it is reserved. -/
def escapeReserved (name : String) : String :=
  if isReserved name then "`" ++ name ++ "`" else name

end SwiftDecl
