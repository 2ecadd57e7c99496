import SwiftDecl.Code
import SwiftDecl.Fault
import SwiftDecl.Signature

/-!
# Drafts of functions

A function is drafted call by call. Each call is checked against the grammar of the declaration's
kind, and a refused call gives the reason. A draft can be built at any time, and a function can
be reopened as a draft, which leaves its local types behind.

What a call adds in a batch is given as a list, so all of it is there before the call starts. A
batch that is computed on the way, and could fail or look at the draft in between, is not described.
-/

namespace SwiftDecl

/-- A function that is being put together. -/
structure FunctionDraft where
  name : String
  doc : Code := {}
  attributes : List Attribute := []
  tags : Tags := []
  modifiers : ModifierSet := {}
  signature : Signature := {}
  localTypes : List TypeDecl := []
  body : Code := {}
  /-- The function has no body. -/
  isAbstract : Bool := false

/-- A template with its arguments, or a block of code. -/
inductive CodeSource where
  | template (format : String) (arguments : List Argument)
  | block (code : Code) (arguments : List Argument)

/-- A parameter, or the parts of one, of which the type may be missing. -/
inductive ParameterSource where
  | parameter (p : Parameter)
  | parts (name : String) (type : Option TypeName) (modifiers : List Modifier)
      (label : Option String)

/-- The parameter of a source, if its type is not missing. -/
def ParameterSource.toParameter : ParameterSource → Except Fault Parameter
  | .parameter p => .ok p
  | .parts name (some type) modifiers label =>
    .ok { name, type, label, modifiers := ModifierSet.ofList modifiers }
  | .parts name none _ _ => .error (.parameterWithoutType name)

namespace FunctionDraft

/-- The kind follows from the name. -/
def kind (d : FunctionDraft) : FunctionKind :=
  FunctionKind.ofName d.name

/-- Refuses an operation that the kind forbids. -/
def checkAllowed (d : FunctionDraft) (operation : Operation) : Except Fault Unit :=
  Fault.ofGrammar (d.kind.checkAllowed operation d.name)

/-- Refuses code in an abstract function. -/
def checkHasBody (d : FunctionDraft) : Except Fault Unit :=
  if d.isAbstract then .error (.grammar ⟨d.name, .abstractWithCode⟩) else .ok ()

/-! ## Calls -/

/-- Adds to the documentation. A block of code takes no arguments here. -/
def addDoc (d : FunctionDraft) : CodeSource → Except Fault FunctionDraft
  | .template format arguments => do
    return { d with doc := ← Fault.ofTemplate (d.doc.add format arguments) }
  | .block code arguments =>
    if arguments.isEmpty then .ok { d with doc := d.doc ++ code }
    else .error (.argumentsWithBlock arguments.length)

/-- Adds attributes. Every kind can have them. -/
def addAttributes (d : FunctionDraft) (attributes : List Attribute) : FunctionDraft :=
  { d with attributes := d.attributes ++ attributes }

/-- Attaches a note. -/
def tag (d : FunctionDraft) (key : String) (value : Data) : FunctionDraft :=
  { d with tags := d.tags.set key value }

/-- Adds modifiers, which observers cannot have. -/
def addModifiers (d : FunctionDraft) (modifiers : List Modifier) : Except Fault FunctionDraft := do
  d.checkAllowed .addModifiers
  return { d with modifiers := d.modifiers ∪ ModifierSet.ofList modifiers }

/-- Adds generic parameters, which accessors cannot have. -/
def addTypeVariables (d : FunctionDraft) (vs : List TypeVariable) : Except Fault FunctionDraft := do
  d.checkAllowed .addTypeVariables
  return { d with signature := d.signature.addTypeVariables vs }

/-- Sets the type that is returned. Accessors and initializers return none. -/
def returns (d : FunctionDraft) (type : Option TypeName) : Except Fault FunctionDraft := do
  d.checkAllowed .returns
  return { d with signature := { d.signature with returns := type } }

/-- Adds parameters, all or none. -/
def addParameters (d : FunctionDraft) (ps : List Parameter) : Except Fault FunctionDraft := do
  Fault.ofGrammar
    (d.kind.checkParameterCount d.name d.signature.parameters.length ps.length)
  return { d with signature := d.signature.addParameters ps }

/-- Adds a parameter. A missing type is found before the kind is looked at. -/
def addParameter (d : FunctionDraft) (source : ParameterSource) : Except Fault FunctionDraft := do
  d.addParameters [← source.toParameter]

/-- Makes the function abstract or not. With code in its body it cannot become abstract. -/
def setAbstract (d : FunctionDraft) (value : Bool) : Except Fault FunctionDraft :=
  if value && !d.body.isEmpty then .error (.grammar ⟨d.name, .codeNotAbstract⟩)
  else .ok { d with isAbstract := value }

/-- Makes the function failable or not. Only an initializer can be asked. -/
def setFailable (d : FunctionDraft) (value : Bool) : Except Fault FunctionDraft := do
  d.checkAllowed .failable
  return { d with signature := { d.signature with isFailable := value } }

/-- Says whether the function throws. -/
def setThrowing (d : FunctionDraft) (value : Bool) : FunctionDraft :=
  { d with signature := { d.signature with isThrowing := value } }

/-- Says whether the function is asynchronous. -/
def setAsync (d : FunctionDraft) (value : Bool) : FunctionDraft :=
  { d with signature := { d.signature with isAsync := value } }

/-- Adds types that are declared in the body, so an abstract function cannot have them. -/
def addLocalTypes (d : FunctionDraft) (types : List TypeDecl) : Except Fault FunctionDraft :=
  if d.isAbstract then .error (.grammar ⟨d.name, .abstractWithLocalTypes⟩)
  else .ok { d with localTypes := d.localTypes ++ types }

/-- Adds to the body. A block of code leaves the arguments aside. -/
def addCode (d : FunctionDraft) (source : CodeSource) : Except Fault FunctionDraft := do
  d.checkHasBody
  match source with
  | .template format arguments =>
    return { d with body := ← Fault.ofTemplate (d.body.add format arguments) }
  | .block code _ => return { d with body := d.body ++ code }

/-- Adds a template with named arguments to the body. -/
def addNamedCode (d : FunctionDraft) (format : String) (arguments : List (String × Argument)) :
    Except Fault FunctionDraft := do
  d.checkHasBody
  return { d with body := ← Fault.ofTemplate (d.body.addNamed format arguments) }

/-- Adds a line comment. -/
def addComment (d : FunctionDraft) (format : String) (arguments : List Argument) :
    Except Fault FunctionDraft := do
  d.checkHasBody
  return { d with body := ← Fault.ofTemplate (d.body.add ("// " ++ format ++ "\n") arguments) }

/-- Adds a template to the body and ends the line. -/
def addStatement (d : FunctionDraft) (format : String) (arguments : List Argument) :
    Except Fault FunctionDraft := do
  d.checkHasBody
  return { d with body := ← Fault.ofTemplate (d.body.addStatement format arguments) }

/-- Opens a control flow in the body. -/
def beginControlFlow (d : FunctionDraft) (name condition : String) (arguments : List Argument) :
    Except Fault FunctionDraft := do
  d.checkHasBody
  return { d with body := ← Fault.ofTemplate (d.body.beginControlFlow name condition arguments) }

/-- Goes on with the next branch. A refused header leaves the branch before it closed. -/
def nextControlFlow (d : FunctionDraft) (name condition : String) (arguments : List Argument) :
    FunctionDraft × Option Fault :=
  match d.checkHasBody with
  | .error fault => (d, some fault)
  | .ok () =>
    let (body, e) := d.body.nextControlFlow name condition arguments
    ({ d with body }, e.map .template)

/-- Closes a control flow in the body. -/
def endControlFlow (d : FunctionDraft) : Except Fault FunctionDraft := do
  d.checkHasBody
  return { d with body := d.body.endControlFlow }

end FunctionDraft

/-- A call on a draft. -/
inductive DraftCall where
  | addDoc (source : CodeSource)
  | addAttributes (attributes : List Attribute)
  | tag (key : String) (value : Data)
  | addModifiers (modifiers : List Modifier)
  | addTypeVariables (typeVariables : List TypeVariable)
  | returns (type : Option TypeName)
  | addParameter (source : ParameterSource)
  | addParameters (parameters : List Parameter)
  | setAbstract (value : Bool)
  | setFailable (value : Bool)
  | setThrowing (value : Bool)
  | setAsync (value : Bool)
  | addLocalTypes (types : List TypeDecl)
  | addCode (source : CodeSource)
  | addNamedCode (format : String) (arguments : List (String × Argument))
  | addComment (format : String) (arguments : List Argument)
  | addStatement (format : String) (arguments : List Argument)
  | beginControlFlow (name condition : String) (arguments : List Argument)
  | nextControlFlow (name condition : String) (arguments : List Argument)
  | endControlFlow

namespace FunctionDraft

/-- A draft after a call that either changes it or is refused. -/
def attempt (d : FunctionDraft) : Except Fault FunctionDraft → FunctionDraft × Option Fault
  | .ok changed => (changed, none)
  | .error fault => (d, some fault)

/-- Makes a call. The result is the draft after it, and the fault if the call is refused. -/
def call (d : FunctionDraft) : DraftCall → FunctionDraft × Option Fault
  | .addDoc source => d.attempt (d.addDoc source)
  | .addAttributes attributes => (d.addAttributes attributes, none)
  | .tag key value => (d.tag key value, none)
  | .addModifiers modifiers => d.attempt (d.addModifiers modifiers)
  | .addTypeVariables typeVariables => d.attempt (d.addTypeVariables typeVariables)
  | .returns type => d.attempt (d.returns type)
  | .addParameter source => d.attempt (d.addParameter source)
  | .addParameters parameters => d.attempt (d.addParameters parameters)
  | .setAbstract value => d.attempt (d.setAbstract value)
  | .setFailable value => d.attempt (d.setFailable value)
  | .setThrowing value => (d.setThrowing value, none)
  | .setAsync value => (d.setAsync value, none)
  | .addLocalTypes types => d.attempt (d.addLocalTypes types)
  | .addCode source => d.attempt (d.addCode source)
  | .addNamedCode format arguments => d.attempt (d.addNamedCode format arguments)
  | .addComment format arguments => d.attempt (d.addComment format arguments)
  | .addStatement format arguments => d.attempt (d.addStatement format arguments)
  | .beginControlFlow name condition arguments =>
    d.attempt (d.beginControlFlow name condition arguments)
  | .nextControlFlow name condition arguments => d.nextControlFlow name condition arguments
  | .endControlFlow => d.attempt d.endControlFlow

/-- Makes calls one after the other, refused or not. -/
def run (d : FunctionDraft) (calls : List DraftCall) : FunctionDraft :=
  calls.foldl (fun d c => (d.call c).1) d

/-! ## New drafts -/

/-- The draft of a function that has no body. -/
def newAbstract (name : String) : FunctionDraft :=
  { name, isAbstract := true }

/-- The draft of an initializer. -/
def initializer : FunctionDraft :=
  { name := "init" }

/-- The draft of a deinitializer. -/
def deinitializer : FunctionDraft :=
  { name := "deinit" }

/-- The draft of a getter. -/
def getter : FunctionDraft :=
  { name := "get" }

/-- The draft of a setter. -/
def setter : FunctionDraft :=
  { name := "set" }

/-- The draft of the observer that runs before a change. -/
def willSet : FunctionDraft :=
  { name := "willSet" }

/-- The draft of the observer that runs after a change. -/
def didSet : FunctionDraft :=
  { name := "didSet" }

/-- The draft of an operator. -/
def operator (symbol : String) : FunctionDraft :=
  { name := FunctionKind.operatorMark ++ symbol }

end FunctionDraft

/-- The function, unless a given kind does not fit its name or it is a setter with several
parameters. -/
def FunctionDecl.checked (f : FunctionDecl) (given : FunctionKind) :
    Except GrammarError FunctionDecl :=
  if given ≠ f.kind then .error ⟨f.name, .kindOfName f.kind given⟩
  else if f.kind = .setter ∧ 1 < f.signature.parameters.length then
    .error ⟨f.name, .setterParameters⟩
  else .ok f

namespace FunctionDraft

/-- The function as drafted, unchecked. -/
def toFunction (d : FunctionDraft) : FunctionDecl where
  name := d.name
  doc := d.doc
  attributes := d.attributes
  tags := d.tags
  modifiers := d.modifiers
  signature := d.signature
  localTypes := d.localTypes
  body := if d.isAbstract then none else some d.body

/-- Builds the function. The draft can be used on. -/
def build (d : FunctionDraft) : Except GrammarError FunctionDecl :=
  d.toFunction.checked d.kind

/-- Reopens a function as a draft, without its local types. -/
def ofFunction (f : FunctionDecl) : FunctionDraft where
  name := f.name
  doc := f.doc
  attributes := f.attributes
  tags := f.tags
  modifiers := f.modifiers
  signature := f.signature.reopened
  body := f.body.getD {}
  isAbstract := f.body.isNone

end FunctionDraft

namespace FunctionDecl

/-- Two functions are taken as equal if they are written in the same way. -/
def sameText (f g : FunctionDecl) : Except LayoutFault Bool := do
  return (← f.text) = (← g.text)

end FunctionDecl

end SwiftDecl
