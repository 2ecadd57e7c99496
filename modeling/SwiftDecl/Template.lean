import SwiftDecl.Declaration.Layout
import SwiftDecl.Template.NamedToken
import SwiftDecl.Template.Token
import SwiftDecl.Text.Numeral

/-!
# Templates

A template and its arguments give a block of code. Slots take the arguments in order, or by
their positions counted from one, or by their names; the first two ways do not mix, and no
argument may be left over once a slot takes one.
-/

namespace SwiftDecl

/-- Why a template cannot be filled. -/
inductive TemplateError where
  | dangling (format : String)
  | indexedDirective (d : Directive) (format : String)
  | unknownLetter (c : Char) (format : String)
  | numeral (f : Text.NumeralFault)
  | outOfRange (position : Nat) (slot : Slot) (digits : List Char) (received : Nat)
  | mixed (format : String)
  | unused (format : String) (expected received : Nat)
  | unusedPositions (positions : List Nat) (format : String)
  | badName (name : String)
  | missingName (name : List Char)
  | unknownNamed (c : Char) (position : Nat) (format : String)
  | noSlot (letter : Char)
  | notAType (got : Argument)
  | notAName (got : Argument)
  | noText (fault : LayoutFault)

/-- An argument in a message: a plain value as itself, anything else by the name of its form. -/
def Argument.summary : Argument → String
  | .type t => t.recordName
  | .code _ => "CodeBlock"
  | .parameter _ => "ParameterSpec"
  | .attribute _ => "AttributeSpec"
  | .function _ => "FunctionSpec"
  | .typeDecl _ => "TypeSpec"
  | a => a.shown

/-- The text of an error. -/
def TemplateError.message : TemplateError → String
  | dangling format => "Dangling format character in " ++ Text.quoted format
  | indexedDirective d format =>
    "%" ++ String.singleton d.letter ++ " may not have an index in " ++ Text.quoted format
  | unknownLetter c format =>
    "Invalid format placeholder %" ++ String.singleton c ++ " in " ++ Text.quoted format
  | numeral f => f.message
  | outOfRange position slot digits received =>
    "Index " ++ toString position ++ " for " ++
      Text.quoted (String.ofList ('%' :: digits ++ [slot.letter])) ++
      " not in range (received " ++ toString received ++ " arguments)"
  | mixed format => "Cannot mix indexed and positional placeholders in " ++ Text.quoted format
  | unused format expected received =>
    "Unused arguments in " ++ Text.quoted format ++ ": expected " ++ toString expected ++
      ", received " ++ toString received
  | unusedPositions positions format =>
    "Unused argument positions " ++ ", ".intercalate (positions.map toString) ++ " in " ++
      Text.quoted format
  | badName name => "Argument " ++ Text.quoted name ++ " must start with a lowercase character"
  | missingName name => "Missing named argument for %" ++ String.ofList name
  | unknownNamed c position format =>
    "Unknown format %" ++ String.singleton c ++ " at " ++ toString position ++ " in " ++
      Text.quoted format
  | noSlot letter => "Invalid format placeholder %" ++ String.singleton letter
  | notAType got => "Expected a type name for %T, got " ++ got.summary
  | notAName got => "Expected a name for %N, got " ++ got.summary
  | noText fault => fault.message

/-! ## Arguments -/

/-- The name of an argument that has one. -/
def Argument.name? : Argument → Option String
  | .text s => some s
  | .type (.typeVariable name _) => some name
  | .parameter p => some p.name
  | .attribute a => some a.name
  | .function f => some f.name
  | .typeDecl t => some t.name
  | .modifier m => some m.constantName
  | _ => none

/-- What a slot keeps of an argument: all of it, its text, its name, or the type that it is. -/
def Slot.convert (slot : Slot) (a : Argument) : Except TemplateError Argument :=
  match slot with
  | .literal => .ok a
  | .string =>
    match a.string? with
    | .ok s => .ok (s.elim .null .text)
    | .error fault => .error (.noText fault)
  | .type =>
    match a with
    | .type t => .ok (.type t)
    | _ => .error (.notAType a)
  | .name =>
    match a.name? with
    | some n => .ok (.text n)
    | none => .error (.notAName a)

/-! ## Arguments in order or by position -/

namespace Template

/-- Which arguments the slots so far have taken. -/
structure Taken where
  /-- How many slots have taken the next argument. -/
  inOrder : Nat := 0
  /-- The positions that slots have named, from zero. -/
  byPosition : List Nat := []
deriving DecidableEq, Repr

/-- The position of the argument of a slot, from zero, and what is taken after it. -/
def Taken.next (format : String) (received : Nat) (taken : Taken) (slot : Slot)
    (digits : List Char) : Except TemplateError (Nat × Taken) :=
  -- Of two faults the missing argument is reported, and not that the two ways are mixed.
  if digits.isEmpty then
    if received ≤ taken.inOrder then
      .error (.outOfRange (taken.inOrder + 1) slot digits received)
    else if taken.byPosition.isEmpty then
      .ok (taken.inOrder, { taken with inOrder := taken.inOrder + 1 })
    else .error (.mixed format)
  else
    match Text.numeral 10 digits with
    | .error f => .error (.numeral f)
    | .ok number =>
      let position := number.toNat
      if position = 0 ∨ received < position then
        .error (.outOfRange position slot digits received)
      else if taken.inOrder = 0 then
        .ok (position - 1, { taken with byPosition := (position - 1) :: taken.byPosition })
      else .error (.mixed format)

/-- The error of a malformed placeholder. -/
def Malformed.error (format : String) : Malformed → TemplateError
  | dangling => .dangling format
  | indexedDirective d => .indexedDirective d format
  | unknownLetter c => .unknownLetter c format

/-- Fills the slots of tokens. -/
def fillTokens (format : String) (arguments : List Argument) :
    Taken → List Token → Except TemplateError (Code × Taken)
  | taken, [] => .ok ({}, taken)
  | taken, .text chars :: ts => do
    let (code, taken) ← fillTokens format arguments taken ts
    return ({ code with parts := .text (String.ofList chars) :: code.parts }, taken)
  | taken, .directive d :: ts => do
    let (code, taken) ← fillTokens format arguments taken ts
    return ({ code with parts := .directive d :: code.parts }, taken)
  | taken, .slot slot digits :: ts => do
    let (position, taken) ← taken.next format arguments.length slot digits
    let argument ← slot.convert (arguments.getD position .null)
    let (code, taken) ← fillTokens format arguments taken ts
    return ({ parts := .slot slot :: code.parts, arguments := argument :: code.arguments }, taken)
  | _, .malformed m :: _ => .error (m.error format)

/-- Refuses arguments that no slot has taken, unless there is no slot at all. -/
def Taken.check (format : String) (received : Nat) (taken : Taken) : Except TemplateError Unit :=
  if 0 < taken.inOrder ∧ taken.inOrder < received then
    .error (.unused format taken.inOrder received)
  else if taken.byPosition.isEmpty then .ok ()
  else
    match (List.range received).filter fun i => i ∉ taken.byPosition with
    | [] => .ok ()
    | positions => .error (.unusedPositions (positions.map (· + 1)) format)

/-- The block of a template whose slots take their arguments in order or by position. -/
def instantiate (format : String) (arguments : List Argument) : Except TemplateError Code := do
  let (code, taken) ← fillTokens format arguments {} (tokens format)
  taken.check format arguments.length
  return code

/-! ## Arguments by name -/

/-- The error of a malformed placeholder that is to name its argument. -/
def NamedMalformed.error (format : String) : NamedMalformed → TemplateError
  | dangling => .dangling format
  | unknown c position => .unknownNamed c position format

/-- The argument with a name. Of several the last one counts. -/
def lookup (arguments : List (String × Argument)) (name : String) : Option Argument :=
  (arguments.reverse.find? fun entry => entry.1 == name).map (·.2)

/-- Fills the slots of tokens with named arguments. -/
def fillNamed (format : String) (arguments : List (String × Argument)) :
    List NamedToken → Except TemplateError Code
  | [] => .ok {}
  | .text chars :: ts => do
    let code ← fillNamed format arguments ts
    return { code with parts := .text (String.ofList chars) :: code.parts }
  | .directive d :: ts => do
    let code ← fillNamed format arguments ts
    return { code with parts := .directive d :: code.parts }
  | .slot letter name :: ts =>
    match lookup arguments (String.ofList name), Slot.ofLetter? letter with
    | none, _ => .error (.missingName name)
    | some _, none => .error (.noSlot letter)
    | some a, some slot => do
      let argument ← slot.convert a
      let code ← fillNamed format arguments ts
      return { parts := .slot slot :: code.parts, arguments := argument :: code.arguments }
  | .malformed m :: _ => .error (m.error format)

/-- The block of a template whose slots name their arguments. -/
def instantiateNamed (format : String) (arguments : List (String × Argument)) :
    Except TemplateError Code :=
  match arguments.find? fun entry => !isArgumentName entry.1 with
  | some entry => .error (.badName entry.1)
  | none => fillNamed format arguments (namedTokens format)

/-- Puts a character of plain text before parts. -/
def gluePart (c : Char) : List Part → List Part
  | .text s :: parts => .text (String.ofList (c :: s.toList)) :: parts
  | parts => .text (String.singleton c) :: parts

/-- The parts of plain text, whose percent signs stand for themselves. -/
def plainParts : List Char → List Part
  | [] => []
  | c :: cs => if c = '%' then .directive .percent :: plainParts cs else gluePart c (plainParts cs)

end Template

end SwiftDecl
