import SwiftDecl.Code
import SwiftDecl.Fault

/-!
# Drafts of type declarations

A type declaration grows call by call. Only documentation can be refused.
-/

namespace SwiftDecl

/-- A call on a type declaration. -/
inductive TypeCall where
  | addDoc (format : String) (arguments : List Argument)
  | addAttributes (attributes : List Attribute)
  | tag (key : String) (value : Data)
  | addModifiers (modifiers : List Modifier)
  | addSuperType (type : TypeName)
  | addFunctions (functions : List FunctionDecl)

namespace TypeDecl

/-- A type declaration with nothing in it. -/
def new (kind : TypeKind) (name : String) : TypeDecl :=
  { kind, name, doc := {} }

/-- Adds to the documentation. -/
def addDoc (t : TypeDecl) (format : String) (arguments : List Argument) :
    Except TemplateError TypeDecl := do
  return { t with doc := ← t.doc.add format arguments }

/-- Makes a call. The result is the declaration after it, and the fault if the call is refused. -/
def call (t : TypeDecl) : TypeCall → TypeDecl × Option Fault
  | .addDoc format arguments =>
    match t.addDoc format arguments with
    | .ok changed => (changed, none)
    | .error e => (t, some (.template e))
  | .addAttributes attributes => ({ t with attributes := t.attributes ++ attributes }, none)
  | .tag key value => ({ t with tags := t.tags.set key value }, none)
  | .addModifiers modifiers =>
    ({ t with modifiers := t.modifiers ∪ ModifierSet.ofList modifiers }, none)
  | .addSuperType type => ({ t with superTypes := t.superTypes ++ [type] }, none)
  | .addFunctions functions => ({ t with functions := t.functions ++ functions }, none)

end TypeDecl

/-- The modifiers that a kind of type implies for its member functions. -/
def TypeKind.impliedModifiers (_ : TypeKind) : ModifierSet :=
  .internal

end SwiftDecl
