import SwiftDecl.Config
import SwiftDecl.Document.Schema
import SwiftDecl.FunctionDecl.Draft
import SwiftDecl.TypeName.Parser
import SwiftDecl.Yaml.Value

/-!
# Declarations from documents

A document is replayed on a draft, so the grammar of declarations holds for documents too. Its
texts are never taken for templates.
-/

namespace SwiftDecl

/-- Why a document gives no declaration. -/
inductive DocumentProblem where
  | nameMissing (kind : FunctionKind)
  | nameNotAllowed (kind : FunctionKind)
  | fault (f : Fault)
  | modifier (e : UnknownModifier)
  | type (e : TypeName.ParseError)
  | parameterType (name written : String) (e : TypeName.ParseError)

/-- The text of a problem. -/
def DocumentProblem.message : DocumentProblem → String
  | nameMissing kind => "'name' is required for kind '" ++ kind.documentWord ++ "'"
  | nameNotAllowed kind => "'name' is not allowed for kind '" ++ kind.documentWord ++ "'"
  | fault f => f.message
  | modifier e => e.message
  | type e => e.message
  | parameterType name written e =>
    "parameter '" ++ name ++ "': invalid type " ++ Text.quoted written ++ ": " ++ e.message

/-- A text without the line ends at its end. -/
def dropFinalBreaks (s : String) : String :=
  String.ofList (s.toList.reverse.dropWhile (· == '\n')).reverse

/-- A text in front of a closing parenthesis at its end. -/
def dropClosing (cs : List Char) : List Char :=
  match cs.reverse with
  | ')' :: rest => rest.reverse
  | _ => cs

/-- The attribute of a text: a name, or a name with arguments in parentheses. -/
def Attribute.parse (s : String) : Attribute :=
  let cs := (dropAtSign s).toList
  let name := String.ofList (Text.trimBlank (cs.takeWhile (· != '(')))
  match (cs.dropWhile (· != '(')).drop 1 with
  | [] => Attribute.of name []
  | rest => Attribute.of name [String.ofList (dropClosing rest)]

namespace Document

/-- The draft of a declaration of the kind that a document states. -/
def newDraft (d : Document) : Except DocumentProblem FunctionDraft :=
  match d.kind.reservedName?, d.name with
  | some name, none => .ok { name }
  | some _, some _ => .error (.nameNotAllowed d.kind)
  | none, none => .error (.nameMissing d.kind)
  | none, some name =>
    if name = "" then .error (.nameMissing d.kind)
    else if d.kind = .operator then .ok (FunctionDraft.operator name)
    else .ok { name }

/-- The modifiers of keywords. -/
def readModifiers (keywords : List String) : Except DocumentProblem (List Modifier) :=
  keywords.mapM fun keyword => (Modifier.ofKeyword keyword).mapError .modifier

/-- The type of a text. -/
def readType (text : String) : Except DocumentProblem TypeName :=
  (TypeName.parse text).mapError .type

/-- The generic parameter of an entry. -/
def readTypeVariable (e : TypeVariableEntry) : Except DocumentProblem TypeVariable := do
  return { name := e.name, bounds := ← e.bounds.mapM readType }

/-- The block that writes a text as it is. -/
def literalCode (s : String) : Code :=
  { parts := [.slot .literal], arguments := [.text s] }

/-- The parameter of an entry. -/
def readParameter (e : ParameterEntry) : Except DocumentProblem Parameter := do
  let type ← (TypeName.parse e.type).mapError (.parameterType e.name e.type)
  let modifiers ← readModifiers e.modifiers
  return { name := e.name, type, label := e.label, modifiers := ModifierSet.ofList modifiers,
           default := e.default.map literalCode, variadic := e.variadic }

/-- A call on a draft, with its fault as a problem. -/
def called (r : Except Fault FunctionDraft) : Except DocumentProblem FunctionDraft :=
  r.mapError .fault

/-- Adds the documentation, unless it is empty. -/
def addDoc (d : Document) (draft : FunctionDraft) : Except DocumentProblem FunctionDraft :=
  match d.doc with
  | none => .ok draft
  | some doc =>
    if doc = "" then .ok draft
    else called (draft.addDoc (.template "%L\n" [.text (dropFinalBreaks doc)]))

/-- Adds the modifiers, if there are any. -/
def addModifiers (d : Document) (draft : FunctionDraft) : Except DocumentProblem FunctionDraft := do
  if d.modifiers.isEmpty then return draft
  -- The keywords are read first: an unknown one counts before a kind that has no modifiers.
  called (draft.addModifiers (← readModifiers d.modifiers))

/-- Adds the generic parameters, if there are any. Their bounds are not looked at if the kind of
the declaration has none. -/
def addTypeVariables (d : Document) (draft : FunctionDraft) :
    Except DocumentProblem FunctionDraft := do
  if d.typeVariables.isEmpty then return draft
  -- Here the kind counts before a bound that cannot be read.
  (draft.checkAllowed .addTypeVariables).mapError .fault
  called (draft.addTypeVariables (← d.typeVariables.mapM readTypeVariable))

/-- Adds the parameters. -/
def addParameters (d : Document) (draft : FunctionDraft) :
    Except DocumentProblem FunctionDraft := do
  called (draft.addParameters (← d.parameters.mapM readParameter))

/-- Sets the type that is returned, if there is one. -/
def setReturns (d : Document) (draft : FunctionDraft) : Except DocumentProblem FunctionDraft := do
  match d.returns with
  | none => return draft
  | some text => called (draft.returns (some (← readType text)))

/-- Sets what is true of the declaration. -/
def setFlags (d : Document) (draft : FunctionDraft) : Except DocumentProblem FunctionDraft := do
  let draft := if d.isThrowing then draft.setThrowing true else draft
  let draft := if d.isAsync then draft.setAsync true else draft
  let draft ← if d.isFailable then called (draft.setFailable true) else pure draft
  if d.isAbstract then called (draft.setAbstract true) else return draft

/-- Adds the statements one by one. -/
def addStatements (d : Document) (draft : FunctionDraft) : Except DocumentProblem FunctionDraft :=
  d.statements.foldlM (fun draft s => called (draft.addStatement "%L" [.text s])) draft

/-- The draft of the declaration that a document describes. -/
def draft (d : Document) : Except DocumentProblem FunctionDraft := do
  let draft ← d.newDraft
  let draft ← d.addDoc draft
  let draft := draft.addAttributes (d.attributes.map Attribute.parse)
  let draft ← d.addModifiers draft
  let draft ← d.addTypeVariables draft
  let draft ← d.addParameters draft
  let draft ← d.setReturns draft
  let draft ← d.setFlags draft
  d.addStatements draft

/-- The declaration that a document describes. -/
def build (d : Document) : Except DocumentProblem FunctionDecl := do
  (← d.draft).build.mapError fun e => .fault (.grammar e)

end Document

/-- Why a text gives no document or no declaration. Apart from what is wrong with the document
itself, a scalar can have no value. -/
inductive DocumentError where
  | malformed (label : String)
  | notMapping (label : String)
  | invalid (label : String) (issues : List Issue)
  | refused (label : String) (problem : DocumentProblem)
  | value (fault : Yaml.ValueFault)

/-- The text of an error. -/
def DocumentError.message : DocumentError → String
  | malformed label => "Invalid YAML in '" ++ label ++ "'"
  | notMapping label => "'" ++ label ++ "': declaration document must be a YAML mapping"
  | invalid label _ => "Invalid declaration document '" ++ label ++ "'"
  | refused label problem => "'" ++ label ++ "': " ++ problem.message
  | value fault => fault.message

namespace Document

/-- The document of a text that is known under a label. -/
def parse (text : String) (label : String := "<string>") : Except DocumentError Document :=
  match Yaml.load text with
  | .error (.malformed _) => .error (.malformed label)
  | .error (.value v) => .error (.value v)
  | .ok (.map fields) => (ofData (.map fields)).mapError (.invalid label)
  | .ok _ => .error (.notMapping label)

/-- The declaration of a document that is known under a label. -/
def declaration (d : Document) (label : String := "<string>") :
    Except DocumentError FunctionDecl :=
  d.build.mapError (.refused label)

end Document

/-- How a declaration is written with a configuration. -/
def WriterConfig.layout (c : WriterConfig) (f : FunctionDecl) (concise : Bool := false) : Layout :=
  f.layout c.implied (concise || c.conciseGetters)

end SwiftDecl
