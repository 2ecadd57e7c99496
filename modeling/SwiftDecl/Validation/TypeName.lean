import SwiftDecl.TypeName
import SwiftDecl.Validation

/-!
# Type names from data

A mapping describes a type name. Its form is named under `kind`, and the form decides which
other entries it needs; entries that it does not need are left aside. The form is a step of the
path to what lies in the mapping.
-/

namespace SwiftDecl.TypeName

/-- An entry of a mapping, with what its value gives as a type name, as a declared name, and as
a list of type names. -/
structure Entry where
  key : String
  value : Data
  asType : Checked TypeName
  asTypes : Checked (List TypeName)

/-- The entry under a key. -/
def Entry.find? (entries : List Entry) (key : String) : Option Entry :=
  entries.find? fun e => e.key == key

/-- What must be under a key. -/
def Entry.required {α : Type} (entries : List Entry) (key : String) (read : Entry → Checked α) :
    Checked α :=
  match find? entries key with
  | some e => (read e).under key
  | none => (Checked.fail .missing).under key

/-- What can be under a key. -/
def Entry.optional {α : Type} (entries : List Entry) (key : String) (default : α)
    (read : Entry → Checked α) : Checked α :=
  match find? entries key with
  | some e => (read e).under key
  | none => .ok default

/-- A tuple of texts. -/
def checkNames (d : Data) : Checked (List String) :=
  match d.items? with
  | some items => Checked.items (items.map Data.checkText)
  | none => Checked.fail .tupleType

/-- The declared name of a mapping. -/
def checkDeclared (entries : List Entry) : Checked DeclaredName :=
  ((Entry.optional entries "module" "" fun e => e.value.checkText).both
    (Entry.required entries "names" fun e => checkNames e.value)).map fun p => ⟨p.1, p.2⟩

/-- The word for the form of a declared name, which need not be there. -/
def checkDeclaredKind (d : Data) : Checked Unit :=
  match d with
  | .text "declared" => .ok ()
  | _ => Checked.fail .literalError

/-- The type name of a mapping of a form. -/
def assemble (kind : String) (entries : List Entry) (raw : Checked DeclaredName) :
    Checked TypeName :=
  match kind with
  | "declared" => ((checkDeclared entries).map TypeName.declared).under kind
  | "parameterized" =>
    ((raw.both (Entry.required entries "type_arguments" (·.asTypes))).map fun p =>
      TypeName.parameterized p.1 p.2).under kind
  | "optional" =>
    ((Entry.required entries "wrapped" (·.asType)).map TypeName.optional).under kind
  | "array" =>
    ((Entry.required entries "element_type" (·.asType)).map TypeName.array).under kind
  | "dictionary" =>
    (((Entry.required entries "key_type" (·.asType)).both
      (Entry.required entries "value_type" (·.asType))).map fun p =>
        TypeName.dictionary p.1 p.2).under kind
  | "variable" =>
    (((Entry.required entries "name" fun e => e.value.checkText).both
      (Entry.optional entries "bounds" [] (·.asTypes))).map fun p =>
        TypeName.typeVariable p.1 p.2).under kind
  | _ => Checked.fail .unionTagInvalid

/-- The entries of a mapping whose values need no deeper look. -/
def plainEntries (entries : List (Data × Data)) : List Entry :=
  entries.map fun e => ⟨e.1.plain, e.2, Checked.fail .modelAttributesType, Checked.fail .tupleType⟩

/-- The raw type of a generic type: a declared name, of which the form may be left out. -/
def checkRaw (entries : List Entry) : Checked DeclaredName :=
  Entry.required entries "raw_type" fun e =>
    match e.value with
    | .map fields =>
      let fields := plainEntries fields
      ((Entry.optional fields "kind" () fun e => checkDeclaredKind e.value).both
        (checkDeclared fields)).map (·.2)
    | _ => Checked.fail .modelType

mutual

/-- The type name that data describes. -/
def ofData : Data → Checked TypeName
  | .map entries =>
    let entries := entriesOf entries
    match Entry.find? entries "kind" with
    | some e =>
      match e.value with
      | .text kind => assemble kind entries (checkRaw entries)
      | _ => Checked.fail .unionTagInvalid
    | none => Checked.fail .unionTagNotFound
  | _ => Checked.fail .modelAttributesType

/-- The entries of a mapping. -/
def entriesOf : List (Data × Data) → List Entry
  | [] => []
  | (key, value) :: rest =>
    ⟨key.plain, value, ofData value, listOfData value⟩ :: entriesOf rest

/-- The type names that a list describes. -/
def listOfData : Data → Checked (List TypeName)
  | .list items => itemsOfData 0 items
  | _ => Checked.fail .tupleType

/-- The type names that the items of a list describe, from a position on. -/
def itemsOfData : (position : Nat) → List Data → Checked (List TypeName)
  | _, [] => .ok []
  | position, d :: ds =>
    (((ofData d).under (toString position)).both (itemsOfData (position + 1) ds)).map fun p =>
      p.1 :: p.2

end

/-! ## From parts that may be missing -/

/-- A part at a step of the path. -/
def present (step : String) : Option TypeName → Checked TypeName
  | some t => .ok t
  | none => (Checked.fail .modelAttributesType).under step

/-- All parts of a list at a step of the path. -/
def presentAll (step : String) (parts : List (Option TypeName)) : Checked (List TypeName) :=
  (Checked.items (parts.map fun part =>
    match part with
    | some t => .ok t
    | none => Checked.fail .modelAttributesType)).under step

/-- The optional type of a type. -/
def optionalOf (wrapped : Option TypeName) : Checked TypeName :=
  (present "wrapped" wrapped).map .optional

/-- The type of arrays of a type. -/
def arrayOf (element : Option TypeName) : Checked TypeName :=
  (present "element_type" element).map .array

/-- The type of dictionaries from one type to another. -/
def dictionaryOf (key value : Option TypeName) : Checked TypeName :=
  ((present "key_type" key).both (present "value_type" value)).map fun p => .dictionary p.1 p.2

/-- A generic type applied to arguments. Only a declared type can be applied. -/
def parameterizedOf (raw : Option TypeName) (arguments : List (Option TypeName)) :
    Checked TypeName :=
  let raw : Checked DeclaredName :=
    match raw with
    | some (.declared name) => .ok name
    | _ => (Checked.fail .modelType).under "raw_type"
  (raw.both (presentAll "type_arguments" arguments)).map fun p => .parameterized p.1 p.2

end SwiftDecl.TypeName

namespace SwiftDecl

/-- A generic parameter with its bounds. -/
def TypeVariable.checked (name : String) (bounds : List (Option TypeName)) : Checked TypeVariable :=
  (TypeName.presentAll "bounds" bounds).map fun bounds => { name, bounds }

end SwiftDecl
