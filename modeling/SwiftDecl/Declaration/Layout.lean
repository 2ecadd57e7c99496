import SwiftDecl.Declaration.Shown
import SwiftDecl.Layout
import SwiftDecl.Reserved
import SwiftDecl.Text.StringLiteral
import SwiftDecl.Writer

/-!
# Layouts of declarations

How each declaration is written. A block of code writes its parts in order, and each slot the
next argument; a function writes its documentation, attributes, modifiers, signature and body; a
type writes its member functions with an empty line between them.

A whole number is written in full, however many digits it has. The limit on numerals
(`Text.digitLimit`) is kept where numbers are read and where messages show them; that a number
beyond it has no text as an argument either is left out.
-/

namespace SwiftDecl

/-! ## Headers -/

/-- Attributes, each followed by a line end or, on one line, by a space. -/
def attributesLayout (attributes : List Attribute) (oneLine : Bool := false) : Layout :=
  attributes.flatMap fun a => [.text a.text, .text (if oneLine then " " else "\n")]

/-- The modifiers that the surroundings do not imply, in the order of writing. -/
def modifiersLayout (modifiers implied : ModifierSet) : Layout :=
  (modifiers.toList.filter fun m => m ∉ implied).flatMap fun m => [.text m.keyword, .text " "]

/-- Generic parameters between angle brackets, if there are any. -/
def typeVariablesLayout (typeVariables : List TypeVariable) : Layout :=
  if typeVariables.isEmpty then []
  else [.text ("<" ++ ", ".intercalate (typeVariables.map TypeVariable.text) ++ ">")]

/-- The layout of a block of code as a documentation comment. An empty block leaves no trace. -/
def docLayout (doc : Code) (layout : Layout) : Layout :=
  if doc.isEmpty then [] else .beginDoc :: layout ++ [.endDoc]

namespace FunctionKind

/-- The kinds that are written without the word `func`. -/
def isKeywordless : FunctionKind → Bool
  | ordinary | operator => false
  | _ => true

/-- The kinds that never show an empty list of parameters. -/
def hidesEmptyParameters : FunctionKind → Bool
  | deinitializer | getter | setter | willSet | didSet => true
  | _ => false

/-- The kinds that are written under their reserved name. -/
def keepsName : FunctionKind → Bool
  | initializer | deinitializer | getter | setter => true
  | _ => false

/-- The kinds whose parameters show no types. -/
def hidesParameterTypes (kind : FunctionKind) : Bool :=
  kind.isAccessor || kind.isObserver

/-- The name that a declaration is written under. -/
def printedName (name : String) : String :=
  let kind := ofName name
  if kind.keepsName then name
  else if kind = operator then displayName name
  else escapeReserved name

end FunctionKind

/-! ## Blocks of code -/

/-- What an argument writes into each slot. -/
abbrev Placed := Slot → Layout

/-- An argument that is written in one way as a literal, shows a text in string and name slots,
and fits no type slot. -/
def placed (literal : Layout) (string : Except LayoutFault String) : Placed
  | .literal => literal
  | .string =>
    match string with
    | .ok s => [.text (Text.stringLiteral s)]
    | .error fault => [.fail fault]
  | .type => [.fail .notAType]
  | .name =>
    match string with
    | .ok s => [.text s]
    | .error fault => [.fail fault]

/-- An argument that is one text in all slots but those for types. -/
def placedText (s : String) : Placed :=
  placed [.text s] (.ok s)

/-- A type name, which type slots take. -/
def placedType (t : TypeName) : Placed
  | .type => [.text t.text]
  | slot => placed [.text t.text] (.ok t.plain) slot

/-- Nothing, which is the literal `nil` in string slots. -/
def placedNull : Placed
  | .string => [.text "nil"]
  | slot => placedText "None" slot

/-- What a directive does. -/
def Directive.layout : Directive → Layout
  | percent => [.text "%"]
  | indent => [.indent]
  | unindent => [.unindent]
  | space => [.text " "]

/-- The parts of a block in order. Each slot takes the next argument. -/
def fill : List Part → List Placed → Layout
  | [], _ => []
  | .text s :: parts, arguments => .text s :: fill parts arguments
  | .directive d :: parts, arguments => d.layout ++ fill parts arguments
  | .slot _ :: _, [] => [.fail .missingArgument]
  | .slot s :: parts, argument :: arguments => argument s ++ fill parts arguments

/-! ## Declarations -/

mutual

/-- What an argument writes into each slot. -/
def Argument.placed : Argument → Placed
  | .text s => placedText s
  | .integer i => placedText (toString i)
  | .float x => placedText (Decimal.floatText x)
  | .boolean b => placedText (shownBool b)
  | .null => placedNull
  | .type t => placedType t
  | .code c => SwiftDecl.placed c.layout (Layout.text c.layout)
  | .parameter p => SwiftDecl.placed (p.layout true) (.ok p.shown)
  | .attribute a => placedText a.text
  | .function f => SwiftDecl.placed (f.layout {} false) (Layout.text (f.layout .internal false))
  | .typeDecl t => SwiftDecl.placed (t.layout {}) (Layout.text (t.layout {}))
  | .modifier m => placedText ("Modifier." ++ m.constantName)

/-- What several arguments write into each slot. -/
def Argument.placedAll : List Argument → List Placed
  | [] => []
  | a :: as => a.placed :: Argument.placedAll as

/-- How a block of code is written. -/
def Code.layout : Code → Layout
  | ⟨parts, arguments⟩ => fill parts (Argument.placedAll arguments)

/-- How a parameter is written, with its type or by its label and name alone. -/
def Parameter.layout : Parameter → (withType : Bool) → Layout
  | ⟨name, type, label, modifiers, default, variadic⟩, withType =>
    (match label with
      | some label => if label = name then [] else [.text (label ++ " ")]
      | none => []) ++
    .text (escapeReserved name) ::
    if withType then
      .text ": " :: modifiersLayout modifiers {} ++ [.text type.text] ++
        (if variadic then [.text "..."] else []) ++ Code.defaultLayout default
    else []

/-- How a default value is written after its parameter. -/
def Code.defaultLayout : Option Code → Layout
  | none => []
  | some value => .text " = " :: value.layout

/-- The parameters after the first, each after a comma. -/
def Parameter.layoutRest : List Parameter → (withTypes : Bool) → Layout
  | [], _ => []
  | p :: ps, withTypes => .text ", " :: p.layout withTypes ++ Parameter.layoutRest ps withTypes

/-- Parameters in parentheses. -/
def Parameter.layoutAll : List Parameter → (withTypes : Bool) → Layout
  | [], _ => [.text "(", .text ")"]
  | p :: ps, withTypes =>
    .text "(" :: p.layout withTypes ++ Parameter.layoutRest ps withTypes ++ [.text ")"]

/-- How a signature is written after the keyword of its declaration. -/
def Signature.layout : Signature → (name : Option String) → (emptyParentheses withTypes : Bool) →
    Layout
  | ⟨typeVariables, parameters, returns, isThrowing, isAsync, isFailable⟩, name,
      emptyParentheses, withTypes =>
    (name.elim [] fun name => [.text name]) ++
    (if isFailable then [.text "?"] else []) ++
    typeVariablesLayout typeVariables ++
    (if parameters.isEmpty && !emptyParentheses then []
      else Parameter.layoutAll parameters withTypes) ++
    (if isAsync then [.text " async"] else []) ++
    (if isThrowing then [.text " throws"] else []) ++
    match returns with
    | some type => if type.isVoid then [] else [.text " -> ", .text type.text]
    | none => []

/-- How a function is written where `implied` modifiers need not be repeated. A plain getter can
be written concisely, as its bare statements. -/
def FunctionDecl.layout : FunctionDecl → (implied : ModifierSet) → (concise : Bool) → Layout
  | ⟨name, doc, attributes, _, modifiers, signature, localTypes, body⟩, implied, concise =>
    let kind := FunctionKind.ofName name
    -- A getter with anything before its body cannot do without its keyword.
    if kind = .getter && concise && doc.isEmpty && attributes.isEmpty && modifiers.isEmpty then
      TypeDecl.localLayout localTypes ++ Code.bodyLayout body
    else
      docLayout doc doc.layout ++
      attributesLayout attributes ++
      modifiersLayout modifiers implied ++
      (if kind.isKeywordless then [] else [.text "func "]) ++
      signature.layout (some (FunctionKind.printedName name)) (!kind.hidesEmptyParameters)
        (!kind.hidesParameterTypes) ++
      if body.isNone then []
      else
        [.text " \x7b\n", .indent] ++ TypeDecl.localLayout localTypes ++ Code.bodyLayout body ++
          [.unindent, .text "\x7d\n"]

/-- The statements of a body; an abstract function has none. -/
def Code.bodyLayout : Option Code → Layout
  | none => []
  | some body => body.layout

/-- The types in front of the statements of a body, with empty lines around them. -/
def TypeDecl.localLayout : List TypeDecl → Layout
  | [] => []
  | t :: ts => .text "\n" :: t.layout {} ++ TypeDecl.layoutMore ts ++ [.text "\n"]

/-- The local types after the first, each after an empty line. -/
def TypeDecl.layoutMore : List TypeDecl → Layout
  | [] => []
  | t :: ts => .text "\n" :: t.layout {} ++ TypeDecl.layoutMore ts

/-- How a type declaration is written. -/
def TypeDecl.layout : TypeDecl → (implied : ModifierSet) → Layout
  | ⟨kind, name, doc, attributes, _, modifiers, superTypes, functions⟩, implied =>
    docLayout doc doc.layout ++
    attributesLayout attributes ++
    modifiersLayout modifiers implied ++
    .text (kind.keyword ++ " " ++ escapeReserved name) ::
    (if superTypes.isEmpty then []
      else [.text ": ", .text (", ".intercalate (superTypes.map TypeName.text))]) ++
    [.text " \x7b\n", .indent] ++ FunctionDecl.layoutMembers functions ++
      [.unindent, .text "\x7d\n"]

/-- Member functions, with an empty line between them. -/
def FunctionDecl.layoutMembers : List FunctionDecl → Layout
  | [] => []
  | f :: fs =>
    f.layout .internal false ++ (if f.isAbstract then [.text "\n"] else []) ++
      FunctionDecl.layoutMoreMembers fs

/-- The member functions after the first. -/
def FunctionDecl.layoutMoreMembers : List FunctionDecl → Layout
  | [] => []
  | f :: fs =>
    .text "\n" :: f.layout .internal false ++ (if f.isAbstract then [.text "\n"] else []) ++
      FunctionDecl.layoutMoreMembers fs

end

/-! ## Texts -/

/-- The text of a block of code. -/
def Code.text (c : Code) : Except LayoutFault String :=
  Layout.text c.layout

/-- The text of a function outside of any type, where internal access is implied. -/
def FunctionDecl.text (f : FunctionDecl) : Except LayoutFault String :=
  Layout.text (f.layout .internal false)

/-- The text of a type declaration. -/
def TypeDecl.text (t : TypeDecl) : Except LayoutFault String :=
  Layout.text (t.layout {})

/-- The text of an argument in a string slot; nothing stays nothing. -/
def Argument.string? : Argument → Except LayoutFault (Option String)
  | .text s => .ok (some s)
  | .integer i => .ok (some (toString i))
  | .float x => .ok (some (Decimal.floatText x))
  | .boolean b => .ok (some (shownBool b))
  | .null => .ok none
  | .type t => .ok (some t.plain)
  | .code c => some <$> c.text
  | .parameter p => .ok (some p.shown)
  | .attribute a => .ok (some a.text)
  | .function f => some <$> f.text
  | .typeDecl t => some <$> t.text
  | .modifier m => .ok (some ("Modifier." ++ m.constantName))

end SwiftDecl
