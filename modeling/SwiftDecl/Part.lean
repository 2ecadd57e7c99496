/-!
# Parts of a code template

A code template is cut into parts. A part is literal text, a directive, which needs no argument,
or a slot, which takes the next argument and shows it in one of four ways.
-/

namespace SwiftDecl

/-- How a slot shows its argument. -/
inductive Slot where
  | literal
  | string
  | type
  | name
deriving DecidableEq, Repr

/-- The letter of a slot. -/
def Slot.letter : Slot → Char
  | literal => 'L'
  | string => 'S'
  | type => 'T'
  | name => 'N'

/-- The slot with a letter. -/
def Slot.ofLetter? : Char → Option Slot
  | 'L' => some literal
  | 'S' => some string
  | 'T' => some type
  | 'N' => some name
  | _ => none

/-- What a template can do without an argument. -/
inductive Directive where
  | percent
  | indent
  | unindent
  | space
deriving DecidableEq, Repr

/-- The letter of a directive. -/
def Directive.letter : Directive → Char
  | percent => '%'
  | indent => '>'
  | unindent => '<'
  | space => 'W'

/-- The directive with a letter. -/
def Directive.ofLetter? : Char → Option Directive
  | '%' => some percent
  | '>' => some indent
  | '<' => some unindent
  | 'W' => some space
  | _ => none

/-- A part of a template. -/
inductive Part where
  | text (s : String)
  | directive (d : Directive)
  | slot (s : Slot)
deriving DecidableEq, Repr

namespace Part

/-- The spelling of a part: literal text stands for itself. -/
def spelling : Part → String
  | text s => s
  | directive d => String.ofList ['%', d.letter]
  | slot s => String.ofList ['%', s.letter]

/-- The part with a spelling. What spells no directive and no slot is literal text. -/
def ofSpelling (s : String) : Part :=
  match s.toList with
  | ['%', c] =>
    match Slot.ofLetter? c, Directive.ofLetter? c with
    | some shown, _ => .slot shown
    | none, some order => .directive order
    | none, none => .text s
  | _ => .text s

/-- The part takes an argument. -/
def isSlot : Part → Bool
  | slot _ => true
  | _ => false

end Part

end SwiftDecl
