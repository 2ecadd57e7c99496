import SwiftDecl.Template

/-!
# Faults of building

Why a call that builds a declaration is refused.
-/

namespace SwiftDecl

/-- The cause for which a call is refused. -/
inductive Fault where
  | grammar (e : GrammarError)
  | template (e : TemplateError)
  | argumentsWithBlock (count : Nat)
  | parameterWithoutType (name : String)

/-- The text of a fault. -/
def Fault.message : Fault → String
  | grammar e => e.message
  | template e => e.message
  | argumentsWithBlock count =>
    "Unused arguments with a code block doc: received " ++ toString count
  | parameterWithoutType name => "Parameter " ++ Text.quoted name ++ " requires a type"

/-- The result of a check of the grammar, with its error as a fault. -/
def Fault.ofGrammar {α : Type} (r : Except GrammarError α) : Except Fault α :=
  r.mapError .grammar

/-- The result of filling a template, with its error as a fault. -/
def Fault.ofTemplate {α : Type} (r : Except TemplateError α) : Except Fault α :=
  r.mapError .template

end SwiftDecl
