import SwiftDecl.FunctionKind

/-!
# Declaration documents

A document describes a single function-like declaration by texts: types, modifiers, attributes
and statements are given as they are written.
-/

namespace SwiftDecl

/-- A generic parameter of a document. -/
structure TypeVariableEntry where
  name : String
  bounds : List String := []
deriving DecidableEq, Repr

/-- A parameter of a document. -/
structure ParameterEntry where
  name : String
  type : String
  label : Option String := none
  default : Option String := none
  variadic : Bool := false
  modifiers : List String := []
deriving DecidableEq, Repr

/-- A document. -/
structure Document where
  kind : FunctionKind := .ordinary
  /-- The name of a function or the symbol of an operator; the other kinds have none. -/
  name : Option String := none
  doc : Option String := none
  attributes : List String := []
  modifiers : List String := []
  typeVariables : List TypeVariableEntry := []
  parameters : List ParameterEntry := []
  returns : Option String := none
  isThrowing : Bool := false
  isAsync : Bool := false
  isFailable : Bool := false
  isAbstract : Bool := false
  statements : List String := []
deriving DecidableEq, Repr

/-- The word by which a document states a kind. -/
def FunctionKind.documentWord : FunctionKind → String
  | ordinary => "function"
  | kind => kind.word

/-- The kind that a document states by a word. -/
def FunctionKind.ofDocumentWord? (w : String) : Option FunctionKind :=
  all.find? fun k => k.documentWord == w

end SwiftDecl
