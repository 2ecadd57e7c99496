import SwiftDecl.Code

/-!
# Building signatures

A signature grows by generic parameters, each kept once, and by parameters.
-/

namespace SwiftDecl.Signature

/-- Adds a generic parameter that is not there yet. -/
def addTypeVariable (s : Signature) (v : TypeVariable) : Signature :=
  if v ∈ s.typeVariables then s else { s with typeVariables := s.typeVariables ++ [v] }

/-- Adds the generic parameters that are not there yet. -/
def addTypeVariables (s : Signature) (vs : List TypeVariable) : Signature :=
  vs.foldl addTypeVariable s

/-- Adds parameters. -/
def addParameters (s : Signature) (ps : List Parameter) : Signature :=
  { s with parameters := s.parameters ++ ps }

/-- The signature with each generic parameter once, as it comes out when it is built anew. -/
def reopened (s : Signature) : Signature :=
  ({ s with typeVariables := [] } : Signature).addTypeVariables s.typeVariables

/-- The defaults are equal: both are missing, or they are written in the same way. -/
def sameDefault : Option Code → Option Code → Except LayoutFault Bool
  | none, none => .ok true
  | some a, some b => a.sameText b
  | _, _ => .ok false

/-- The parameters are equal. The defaults are compared if everything before them is equal. -/
def sameParameter (p q : Parameter) : Except LayoutFault Bool := do
  if p.name = q.name ∧ p.type = q.type ∧ p.label = q.label ∧ p.modifiers = q.modifiers then
    return (← sameDefault p.default q.default) && p.variadic == q.variadic
  else return false

/-- The parameters are equal one by one. -/
def sameParameters : List Parameter → List Parameter → Except LayoutFault Bool
  | [], [] => .ok true
  | p :: ps, q :: qs => do
    if ← sameParameter p q then sameParameters ps qs else return false
  | _, _ => .ok false

/-- The signatures are equal field by field. -/
def same (s t : Signature) : Except LayoutFault Bool := do
  if s.typeVariables ≠ t.typeVariables then
    return false
  if !(← sameParameters s.parameters t.parameters) then
    return false
  return s.returns = t.returns && s.isThrowing == t.isThrowing && s.isAsync == t.isAsync &&
    s.isFailable == t.isFailable

end SwiftDecl.Signature
