import SwiftDecl.Text.Ranges

/-!
# White space

The white space of every script: the separators of space, line and paragraph, and the controls
that end or divide lines. The zero-width space is not among them.
-/

namespace SwiftDecl.Text

/-- All white space. -/
def blankRanges : Ranges :=
  [(0x09, 0x0D), (0x1C, 0x20), (0x85, 0x85), (0xA0, 0xA0), (0x1680, 0x1680),
   (0x2000, 0x200A), (0x2028, 0x2029), (0x202F, 0x202F), (0x205F, 0x205F), (0x3000, 0x3000)]

/-- A white space character. -/
def isBlank (c : Char) : Bool :=
  blankRanges.contains c

/-- Drops the white space at the front. -/
def skipBlank (cs : List Char) : List Char :=
  cs.dropWhile isBlank

/-- Drops the white space at both ends. -/
def trimBlank (cs : List Char) : List Char :=
  (skipBlank (skipBlank cs).reverse).reverse

/-- The characters without a line feed at their end. A pattern that reaches to the end of a text
leaves one aside. -/
def dropFinalBreak (cs : List Char) : List Char :=
  if cs.getLast? = some '\n' then cs.dropLast else cs

end SwiftDecl.Text
