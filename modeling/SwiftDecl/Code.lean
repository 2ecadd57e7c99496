import SwiftDecl.Template

/-!
# Building blocks of code

A block grows at its end: by a template with its arguments, by another block, by a statement, or
by the braces of a control flow. Each operation gives the larger block and leaves the old one as
it was.
-/

namespace SwiftDecl.Code

/-- A block without slots. -/
def ofParts (parts : List Part) : Code :=
  { parts }

/-- A text that stands for itself. -/
def plain (s : String) : Code :=
  ofParts (Template.plainParts s.toList)

/-- The block of a template. -/
def ofTemplate (format : String) (arguments : List Argument) : Except TemplateError Code :=
  Template.instantiate format arguments

/-- Adds a template. -/
def add (c : Code) (format : String) (arguments : List Argument) : Except TemplateError Code := do
  return c ++ (← Template.instantiate format arguments)

/-- Adds a template with named arguments. -/
def addNamed (c : Code) (format : String) (arguments : List (String × Argument)) :
    Except TemplateError Code := do
  return c ++ (← Template.instantiateNamed format arguments)

/-- Adds a template and ends the line. -/
def addStatement (c : Code) (format : String) (arguments : List Argument) :
    Except TemplateError Code := do
  return c ++ ((← ofTemplate format arguments) ++ ofParts [.text "\n"])

/-- Indents what follows. -/
def indent (c : Code) : Code :=
  c ++ ofParts [.directive .indent]

/-- Takes an indentation back. -/
def unindent (c : Code) : Code :=
  c ++ ofParts [.directive .unindent]

/-- The template that opens a control flow: its name, its condition if it has one, a brace. -/
def headerTemplate (name condition : String) : String :=
  Template.escapePercent name ++ (if condition.isEmpty then "" else " " ++ condition) ++ " \x7b\n"

/-- Opens a control flow, such as `if x == 5` with its brace, and indents. -/
def beginControlFlow (c : Code) (name condition : String) (arguments : List Argument) :
    Except TemplateError Code := do
  return (← c.add (headerTemplate name condition) arguments).indent

/-- Closes the branch of a control flow up to the header of the next one. -/
def closeBranch (c : Code) : Code :=
  c.unindent ++ ofParts [.text "\x7d "]

/-- Goes on with the next branch of a control flow, such as `else`. If its header is refused, the
branch before it stays closed. -/
def nextControlFlow (c : Code) (name condition : String) (arguments : List Argument) :
    Code × Option TemplateError :=
  match c.closeBranch.beginControlFlow name condition arguments with
  | .ok code => (code, none)
  | .error e => (c.closeBranch, some e)

/-- Closes a control flow. -/
def endControlFlow (c : Code) : Code :=
  c.unindent ++ ofParts [.text "\x7d\n"]

/-- The blocks one after the other, with a separator between them. -/
def joinRest (separator : Code) : List Code → Code
  | [] => {}
  | c :: cs => separator ++ c ++ joinRest separator cs

/-- The blocks one after the other, with a separating text between them. -/
def join (blocks : List Code) (separator : String := ", ") : Code :=
  match blocks with
  | [] => {}
  | c :: cs => c ++ joinRest (plain separator) cs

/-- Two blocks are taken as equal if they are written in the same way. -/
def sameText (a b : Code) : Except LayoutFault Bool := do
  return (← a.text) = (← b.text)

end SwiftDecl.Code
