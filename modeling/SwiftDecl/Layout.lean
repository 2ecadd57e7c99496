/-!
# Layouts

A layout is the list of steps by which something is written: its texts in order, the changes of
the indentation, the begin and the end of documentation comments. It does not depend on where
it is written; the writer gives each line its indentation.
-/

namespace SwiftDecl

/-- Why a layout cannot be written to its end. -/
inductive LayoutFault where
  | unindent (levels level : Int)
  | missingArgument
  | notAType
deriving DecidableEq, Repr

/-- The text of a fault; a fault that only a hand-made block can cause has none. -/
def LayoutFault.message : LayoutFault → String
  | unindent levels level => "Cannot unindent " ++ toString levels ++ " from " ++ toString level
  | missingArgument => ""
  | notAType => ""

/-- One step of writing. -/
inductive Step where
  | text (s : String)
  | indent
  | unindent
  | beginDoc
  | endDoc
  | fail (fault : LayoutFault)
deriving DecidableEq, Repr

/-- The steps by which something is written. -/
abbrev Layout := List Step

end SwiftDecl
