import SwiftDecl.Data.Shown
import SwiftDecl.Declaration

/-!
# Declarations shown by their fields

A type name or a parameter has no text of its own where a slot asks for one, and is shown by its
fields instead; so is everything that such a value holds.
-/

namespace SwiftDecl

/-- The modifier as a constant with its keyword. -/
def Modifier.shown (m : Modifier) : String :=
  "<Modifier." ++ m.constantName ++ ": " ++ Text.quoted m.keyword ++ ">"

/-- A set of modifiers by its members. -/
def ModifierSet.shown (s : ModifierSet) : String :=
  if s.isEmpty then "frozenset()"
  else "frozenset(" ++ shownBraces (s.toList.map Modifier.shown) ++ ")"

/-- An attribute by its fields. -/
def Attribute.shown (a : Attribute) : String :=
  shownRecord "AttributeSpec"
    [("name", Text.quoted a.name), ("arguments", shownTuple (a.arguments.map Text.quoted))]

/-- The fields of a declared name. -/
def DeclaredName.fields (n : DeclaredName) : List (String × String) :=
  [("kind", "'declared'"), ("module", Text.quoted n.module),
   ("names", shownTuple (n.names.map Text.quoted))]

/-- A declared name by its fields. -/
def DeclaredName.shown (n : DeclaredName) : String :=
  shownRecord "DeclaredTypeName" n.fields

namespace TypeName

/-- The word for the form of a type name. -/
def recordName : TypeName → String
  | .declared _ => "DeclaredTypeName"
  | .parameterized _ _ => "ParameterizedTypeName"
  | .optional _ => "OptionalTypeName"
  | .array _ => "ArrayTypeName"
  | .dictionary _ _ => "DictionaryTypeName"
  | .typeVariable _ _ => "TypeVariableName"

mutual

/-- The fields of a type name. -/
def fields : TypeName → List (String × String)
  | .declared n => n.fields
  | .parameterized raw arguments =>
    [("kind", "'parameterized'"), ("raw_type", raw.shown),
     ("type_arguments", shownTuple (shownAll arguments))]
  | .optional wrapped =>
    [("kind", "'optional'"), ("wrapped", shownRecord wrapped.recordName wrapped.fields)]
  | .array element =>
    [("kind", "'array'"), ("element_type", shownRecord element.recordName element.fields)]
  | .dictionary key value =>
    [("kind", "'dictionary'"), ("key_type", shownRecord key.recordName key.fields),
     ("value_type", shownRecord value.recordName value.fields)]
  | .typeVariable name bounds =>
    [("kind", "'variable'"), ("name", Text.quoted name), ("bounds", shownTuple (shownAll bounds))]

/-- Type names by their fields. -/
def shownAll : List TypeName → List String
  | [] => []
  | t :: ts => shownRecord t.recordName t.fields :: shownAll ts

end

/-- A type name by its fields. -/
def shown (t : TypeName) : String :=
  shownRecord t.recordName t.fields

/-- The fields of a type name without the name of the form. -/
def plain (t : TypeName) : String :=
  " ".intercalate (t.fields.map fun f => f.1 ++ "=" ++ f.2)

end TypeName

mutual

/-- An argument by its fields. -/
def Argument.shown : Argument → String
  | .text s => Text.quoted s
  | .integer i => toString i
  | .float x => Decimal.floatText x
  | .boolean b => shownBool b
  | .null => "None"
  | .type t => t.shown
  | .code c => c.shown
  | .parameter p => p.shown
  | .attribute a => a.shown
  | .function f => f.shown
  | .typeDecl t => t.shown
  | .modifier m => m.shown

/-- A block of code by its fields. -/
def Code.shown : Code → String
  | ⟨parts, arguments⟩ => shownRecord "CodeBlock"
    [("format_parts", shownTuple (parts.map fun p => Text.quoted p.spelling)),
     ("args", shownTuple (Argument.shownAll arguments))]

/-- A parameter by its fields. -/
def Parameter.shown : Parameter → String
  | ⟨name, type, label, modifiers, default, variadic⟩ => shownRecord "ParameterSpec"
    [("parameter_name", Text.quoted name), ("type_name", type.shown),
     ("argument_label", shownOption (label.map Text.quoted)), ("modifiers", modifiers.shown),
     ("default_value", Code.shownOrNone default), ("variadic", shownBool variadic)]

/-- A signature by its fields. -/
def Signature.shown : Signature → String
  | ⟨typeVariables, parameters, returns, isThrowing, isAsync, isFailable⟩ =>
    shownRecord "FunctionSignatureSpec"
      [("type_variables", shownTuple (typeVariables.map fun v => v.toTypeName.shown)),
       ("parameters", shownTuple (Parameter.shownAll parameters)),
       ("return_type", shownOption (returns.map TypeName.shown)),
       ("throws", shownBool isThrowing), ("async_", shownBool isAsync),
       ("failable", shownBool isFailable)]

/-- A function by its fields. -/
def FunctionDecl.shown : FunctionDecl → String
  | ⟨name, doc, attributes, tags, modifiers, signature, localTypes, body⟩ =>
    let kind := FunctionKind.ofName name
    shownRecord "FunctionSpec"
      [("attributes", shownTuple (attributes.map Attribute.shown)),
       ("tags", "mappingproxy(" ++ shownBraces (tags.map fun t =>
          Text.quoted t.1 ++ ": " ++ t.2.shown) ++ ")"),
       ("name", Text.quoted name),
       ("kind", "<FunctionKind." ++ kind.constantName ++ ": " ++ Text.quoted kind.word ++ ">"),
       ("doc", doc.shown), ("modifiers", modifiers.shown), ("signature", signature.shown),
       ("local_type_specs", shownTuple (TypeDecl.shownAll localTypes)),
       ("body", Code.shownOrAbstract body)]

/-- A type declaration by its fields. -/
def TypeDecl.shown : TypeDecl → String
  | ⟨kind, name, doc, attributes, tags, modifiers, superTypes, functions⟩ =>
    shownRecord "TypeSpec"
      [("attributes", shownTuple (attributes.map Attribute.shown)),
       ("tags", "mappingproxy(" ++ shownBraces (tags.map fun t =>
          Text.quoted t.1 ++ ": " ++ t.2.shown) ++ ")"),
       ("kind", "<TypeKind." ++ String.ofList (kind.keyword.toList.map Char.toUpper) ++ ": " ++
          Text.quoted kind.keyword ++ ">"),
       ("name", Text.quoted name), ("doc", doc.shown), ("modifiers", modifiers.shown),
       ("super_types", shownTuple (superTypes.map TypeName.shown)),
       ("function_specs", shownTuple (FunctionDecl.shownAll functions))]

/-- Arguments by their fields. -/
def Argument.shownAll : List Argument → List String
  | [] => []
  | a :: as => a.shown :: Argument.shownAll as

/-- Parameters by their fields. -/
def Parameter.shownAll : List Parameter → List String
  | [] => []
  | p :: ps => p.shown :: Parameter.shownAll ps

/-- Functions by their fields. -/
def FunctionDecl.shownAll : List FunctionDecl → List String
  | [] => []
  | f :: fs => f.shown :: FunctionDecl.shownAll fs

/-- Type declarations by their fields. -/
def TypeDecl.shownAll : List TypeDecl → List String
  | [] => []
  | t :: ts => t.shown :: TypeDecl.shownAll ts

/-- A block of code by its fields, or nothing. -/
def Code.shownOrNone : Option Code → String
  | none => "None"
  | some c => c.shown

/-- A body by its fields, or the mark of a declaration without one. -/
def Code.shownOrAbstract : Option Code → String
  | none => "AbstractBody()"
  | some c => c.shown

end

end SwiftDecl
