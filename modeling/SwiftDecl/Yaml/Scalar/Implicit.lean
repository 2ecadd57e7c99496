import SwiftDecl.Text.Blank
import SwiftDecl.Yaml.Node
import SwiftDecl.Yaml.Scalar.Number
import SwiftDecl.Yaml.Scalar.Timestamp

/-!
# Scalars without a tag

A scalar without a tag shows its type by its text.
-/

namespace SwiftDecl.Yaml

/-- The words for a truth value, in small letters. -/
def truthWords : List (String × Bool) :=
  [("yes", true), ("no", false), ("true", true), ("false", false), ("on", true), ("off", false)]

/-- A word in small letters, with a capital at its front, and in capitals. -/
def casings (word : String) : List String :=
  let capitals := word.toList.map Char.toUpper
  [word, String.ofList (capitals.take 1 ++ word.toList.drop 1), String.ofList capitals]

/-- The tag of a scalar that has none. A line feed at the end of its text does not count. -/
def implicitTag (text : String) : Tag :=
  let cs := Text.dropFinalBreak text.toList
  let word := String.ofList cs
  if truthWords.any fun w => (casings w.1).contains word then .bool
  else if Number.isFloat cs then .float
  else if Number.isInteger cs then .int
  else if word = "<<" then .merge
  else if text = "" ∨ word = "~" ∨ (casings "null").contains word then .null
  else if Timestamp.isTimestamp cs then .timestamp
  else if word = "=" then .default
  else if word = "!" ∨ word = "&" ∨ word = "*" then .other (Tag.standardHead ++ "yaml")
  else .text

end SwiftDecl.Yaml
