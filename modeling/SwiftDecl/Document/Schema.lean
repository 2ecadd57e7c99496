import SwiftDecl.Data.Key
import SwiftDecl.Document
import SwiftDecl.Validation

/-!
# The schema of documents

The shape that data must have to be a document. A document has no fields but the known ones. Two
fields have a second name, which counts where the first is not there.
-/

namespace SwiftDecl

/-- The entries of a mapping, each of them a field. -/
abbrev Record := List (Data × Data)

namespace Record

/-- The names of a field that the mapping can use, of which it uses the first that is there. -/
def usedName? (fields : Record) (names : List String) : Option String :=
  names.find? fun name => (Data.field? fields name).isSome

/-- A field that need not be there. -/
def optional {α : Type} (fields : Record) (names : List String) (standard : α)
    (check : Data → Checked α) : Checked α :=
  match fields.usedName? names with
  | none => .ok standard
  | some name => (check ((Data.field? fields name).getD .null)).under name

/-- A field that must be there. -/
def required {α : Type} (fields : Record) (name : String) (check : Data → Checked α) : Checked α :=
  match Data.field? fields name with
  | some d => (check d).under name
  | none => (Checked.fail .missing).under name

/-- A key is a text and the name of a field in use. -/
def checkKey (used : List String) (key : Data) : Checked Unit :=
  match key with
  | .text k => if used.contains k then .ok () else (Checked.fail .extraForbidden).under k
  | d => (Checked.fail .invalidKey).under d.pathStep

/-- All keys are names of fields in use. Each field is given by all of its names. -/
def checkKeys (fields : Record) (names : List (List String)) : Checked Unit :=
  let used := names.filterMap fields.usedName?
  (fields.map fun f => checkKey used f.1).foldr (fun c others => (c.both others).map fun _ => ())
    (.ok ())

end Record

/-- A value made of fields. -/
def Data.checkFields {α : Type} (names : List (List String)) (check : Record → Checked α)
    (d : Data) : Checked α :=
  match d with
  | .map fields => ((check fields).both (Record.checkKeys fields names)).map (·.1)
  | _ => Checked.fail .modelType

/-- A list of texts. -/
def Data.checkTexts (d : Data) : Checked (List String) :=
  d.checkList Data.checkText

/-- The kind that a document states. -/
def Data.checkKind (d : Data) : Checked FunctionKind :=
  match d with
  | .text w =>
    match FunctionKind.ofDocumentWord? w with
    | some k => .ok k
    | none => Checked.fail .literalError
  | _ => Checked.fail .literalError

/-- The generic parameter that data describes. -/
def TypeVariableEntry.ofData (d : Data) : Checked TypeVariableEntry :=
  d.checkFields [["name"], ["bounds"]] fun fields =>
    ((fields.required "name" Data.checkText).both
      (fields.optional ["bounds"] [] Data.checkTexts)).map fun (name, bounds) => { name, bounds }

/-- The parameter that data describes. -/
def ParameterEntry.ofData (d : Data) : Checked ParameterEntry :=
  d.checkFields [["name"], ["type"], ["label"], ["default"], ["variadic"], ["modifiers"]]
    fun fields =>
      ((fields.required "name" Data.checkText).both
        ((fields.required "type" Data.checkText).both
        ((fields.optional ["label"] none Data.checkOptionalText).both
        ((fields.optional ["default"] none Data.checkOptionalText).both
        ((fields.optional ["variadic"] false Data.checkBool).both
        (fields.optional ["modifiers"] [] Data.checkTexts)))))).map
      fun (name, type, label, default, variadic, modifiers) =>
        { name, type, label, default, variadic, modifiers }

namespace Document

/-- The fields of a document, each with all of its names. -/
def fieldNames : List (List String) :=
  [["kind"], ["name"], ["doc"], ["attributes"], ["modifiers"],
   ["type-variables", "type_variables"], ["parameters"], ["returns"], ["throws"],
   ["async", "is_async"], ["failable"], ["abstract"], ["statements"]]

/-- The document of the fields of a mapping. -/
def ofFields (fields : Record) : Checked Document :=
  ((fields.optional ["kind"] .ordinary Data.checkKind).both
    ((fields.optional ["name"] none Data.checkOptionalText).both
    ((fields.optional ["doc"] none Data.checkOptionalText).both
    ((fields.optional ["attributes"] [] Data.checkTexts).both
    ((fields.optional ["modifiers"] [] Data.checkTexts).both
    ((fields.optional ["type-variables", "type_variables"] []
      (Data.checkList TypeVariableEntry.ofData)).both
    ((fields.optional ["parameters"] [] (Data.checkList ParameterEntry.ofData)).both
    ((fields.optional ["returns"] none Data.checkOptionalText).both
    ((fields.optional ["throws"] false Data.checkBool).both
    ((fields.optional ["async", "is_async"] false Data.checkBool).both
    ((fields.optional ["failable"] false Data.checkBool).both
    ((fields.optional ["abstract"] false Data.checkBool).both
    (fields.optional ["statements"] [] Data.checkTexts))))))))))))).map
  fun (kind, name, doc, attributes, modifiers, typeVariables, parameters, returns, isThrowing,
      isAsync, isFailable, isAbstract, statements) =>
    { kind, name, doc, attributes, modifiers, typeVariables, parameters, returns, isThrowing,
      isAsync, isFailable, isAbstract, statements }

/-- The document that data describes. -/
def ofData (d : Data) : Checked Document :=
  d.checkFields fieldNames ofFields

end Document

end SwiftDecl
