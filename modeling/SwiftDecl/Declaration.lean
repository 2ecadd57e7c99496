import SwiftDecl.Attribute
import SwiftDecl.Data
import SwiftDecl.FunctionKind
import SwiftDecl.Modifier
import SwiftDecl.Part
import SwiftDecl.TypeName

/-!
# Declarations

Blocks of code, parameters, signatures, functions and types. They refer to each other: a block
of code takes any of them as arguments of its slots, a function holds the types that are local
to its body, and a type holds its member functions.
-/

namespace SwiftDecl

/-- The kinds of type declarations. -/
inductive TypeKind where
  | classType
  | structType
  | enumType
  | protocolType
  | extensionType
deriving DecidableEq, Repr

/-- All kinds of type declarations. -/
def TypeKind.all : List TypeKind :=
  [classType, structType, enumType, protocolType, extensionType]

/-- The keyword of a kind. -/
def TypeKind.keyword : TypeKind → String
  | classType => "class"
  | structType => "struct"
  | enumType => "enum"
  | protocolType => "protocol"
  | extensionType => "extension"

/-- The kind with a keyword. -/
def TypeKind.ofKeyword? (keyword : String) : Option TypeKind :=
  all.find? fun k => k.keyword == keyword

/-- Notes that are attached to a declaration and not written, in order of their keys' first use. -/
abbrev Tags := List (String × Data)

/-- Attaches a note. A key that is in use keeps its place. -/
def Tags.set (key : String) (value : Data) : Tags → Tags
  | [] => [(key, value)]
  | (k, v) :: rest => if k = key then (k, value) :: rest else (k, v) :: Tags.set key value rest

/-- The note under a key. -/
def Tags.get? (tags : Tags) (key : String) : Option Data :=
  (tags.find? fun entry => entry.1 == key).map (·.2)

mutual

/-- What a slot of a block of code can take. -/
inductive Argument where
  | text (s : String)
  | integer (i : Int)
  | float (x : Float)
  | boolean (b : Bool)
  | null
  | type (t : TypeName)
  | code (c : Code)
  | parameter (p : Parameter)
  | attribute (a : Attribute)
  | function (f : FunctionDecl)
  | typeDecl (t : TypeDecl)
  | modifier (m : Modifier)

/-- A block of code: the parts of its template, and the arguments of its slots in order. -/
structure Code where
  parts : List Part := []
  arguments : List Argument := []

/-- A parameter of a function. -/
structure Parameter where
  /-- The name inside the body. -/
  name : String
  type : TypeName
  /-- The label at the call; without one the name is used. -/
  label : Option String := none
  modifiers : ModifierSet := {}
  /-- The default value. -/
  default : Option Code := none
  variadic : Bool := false

/-- What a function takes and gives. -/
structure Signature where
  typeVariables : List TypeVariable := []
  parameters : List Parameter := []
  returns : Option TypeName := none
  isThrowing : Bool := false
  isAsync : Bool := false
  isFailable : Bool := false

/-- A function-like declaration. Without a body it is abstract. -/
structure FunctionDecl where
  name : String
  doc : Code
  attributes : List Attribute := []
  tags : Tags := []
  modifiers : ModifierSet := {}
  signature : Signature
  /-- The types that are declared in the body, before its statements. -/
  localTypes : List TypeDecl := []
  body : Option Code

/-- A type declaration with its member functions. -/
structure TypeDecl where
  kind : TypeKind
  name : String
  doc : Code
  attributes : List Attribute := []
  tags : Tags := []
  modifiers : ModifierSet := {}
  superTypes : List TypeName := []
  functions : List FunctionDecl := []

end

instance : Inhabited Code := ⟨{}⟩
instance : Inhabited Argument := ⟨.null⟩
instance : Inhabited Signature := ⟨{}⟩

/-- The block has no parts. -/
def Code.isEmpty (c : Code) : Bool :=
  c.parts.isEmpty

/-- Two blocks, one after the other. -/
def Code.append (a b : Code) : Code :=
  { parts := a.parts ++ b.parts, arguments := a.arguments ++ b.arguments }

instance : Append Code := ⟨Code.append⟩

/-- The kind of a function follows from its name. -/
def FunctionDecl.kind (f : FunctionDecl) : FunctionKind :=
  FunctionKind.ofName f.name

/-- A declaration without a body. -/
def FunctionDecl.isAbstract (f : FunctionDecl) : Bool :=
  f.body.isNone

end SwiftDecl
