/-!
# Kinds of function-like declarations

The kind of a declaration follows from its name: initializers, deinitializers, accessors and
observers have reserved names, and the name of an operator carries a mark. Each kind may use
only a part of the declaration grammar, and one table says which part.
-/

namespace SwiftDecl

/-- The kinds of function-like declarations. -/
inductive FunctionKind where
  | ordinary
  | initializer
  | deinitializer
  | getter
  | setter
  | willSet
  | didSet
  | operator
deriving DecidableEq, Repr

namespace FunctionKind

/-- All kinds. -/
def all : List FunctionKind :=
  [ordinary, initializer, deinitializer, getter, setter, willSet, didSet, operator]

/-- The word for the kind. -/
def word : FunctionKind → String
  | ordinary => "ordinary"
  | initializer => "constructor"
  | deinitializer => "deinitializer"
  | getter => "getter"
  | setter => "setter"
  | willSet => "will-set"
  | didSet => "did-set"
  | operator => "operator"

/-- The name of the kind as a constant: its word in capitals, with an underscore for a hyphen. -/
def constantName (kind : FunctionKind) : String :=
  String.ofList (kind.word.toList.map fun c => if c = '-' then '_' else c.toUpper)

/-- The kind that a word stands for. -/
def ofWord? (w : String) : Option FunctionKind :=
  all.find? fun k => k.word == w

/-- The reserved name of a kind that has one. -/
def reservedName? : FunctionKind → Option String
  | ordinary => none
  | initializer => some "init"
  | deinitializer => some "deinit"
  | getter => some "get"
  | setter => some "set"
  | willSet => some "willSet"
  | didSet => some "didSet"
  | operator => none

/-- The mark at the front of an operator's name. -/
def operatorMark : String :=
  "op:"

/-- The text of a name after the mark of operators, for a name that carries it. -/
def afterOperatorMark? (name : String) : Option String :=
  if operatorMark.toList.isPrefixOf name.toList then
    some (String.ofList (name.toList.drop operatorMark.length))
  else none

/-- The kind of the declaration with a name. -/
def ofName (name : String) : FunctionKind :=
  match all.find? fun k => k.reservedName? == some name with
  | some k => k
  | none => if (afterOperatorMark? name).isSome then operator else ordinary

/-- A name without the mark of operators. -/
def displayName (name : String) : String :=
  (afterOperatorMark? name).getD name

/-- Getters and setters. -/
def isAccessor : FunctionKind → Bool
  | getter | setter => true
  | _ => false

/-- The kinds that watch a property. -/
def isObserver : FunctionKind → Bool
  | willSet | didSet => true
  | _ => false

end FunctionKind

/-- The parts of a declaration whose use depends on its kind. -/
inductive Operation where
  | addModifiers
  | addTypeVariables
  | returns
  | addParameters
  | failable
deriving DecidableEq, Repr

namespace Operation

/-- All operations. -/
def all : List Operation :=
  [addModifiers, addTypeVariables, returns, addParameters, failable]

/-- The word for the operation. -/
def word : Operation → String
  | addModifiers => "add-modifiers"
  | addTypeVariables => "add-type-variables"
  | returns => "returns"
  | addParameters => "add-parameters"
  | failable => "failable"

/-- The operation that a word stands for. -/
def ofWord? (w : String) : Option Operation :=
  all.find? fun o => o.word == w

end Operation

/-- The rules of the declaration grammar. -/
inductive Rule where
  | observerWithModifiers
  | accessorWithTypeVariables
  | withReturnType
  | withParameters
  | failableNotInitializer
  | oneParameter
  | setterParameters
  | kindOfName (expected given : FunctionKind)
  | codeNotAbstract
  | abstractWithLocalTypes
  | abstractWithCode
deriving DecidableEq, Repr

/-- The text of a rule. -/
def Rule.text : Rule → String
  | observerWithModifiers => "observers cannot have modifiers"
  | accessorWithTypeVariables => "cannot have type variables"
  | withReturnType => "cannot have a return type"
  | withParameters => "cannot have parameters"
  | failableNotInitializer => "only constructors can be failable"
  | oneParameter => "can have only one parameter"
  | setterParameters => "must have zero or one parameter"
  | kindOfName expected given => "kind must be " ++ expected.word ++ ", not " ++ given.word
  | codeNotAbstract => "function with code cannot be abstract"
  | abstractWithLocalTypes => "abstract functions cannot have local types"
  | abstractWithCode => "abstract functions cannot have code"

/-- A declaration breaks a rule of the grammar. -/
structure GrammarError where
  /-- The name of the declaration. -/
  name : String
  /-- The rule that it breaks. -/
  rule : Rule
deriving DecidableEq, Repr

/-- The text of the error: the declaration and the rule. -/
def GrammarError.message (e : GrammarError) : String :=
  e.name ++ ": " ++ e.rule.text

namespace FunctionKind

/-- The rule that forbids an operation to declarations of the kind. -/
def forbids? (kind : FunctionKind) : Operation → Option Rule
  | .addModifiers => if kind.isObserver then some .observerWithModifiers else none
  | .addTypeVariables => if kind.isAccessor then some .accessorWithTypeVariables else none
  | .returns => if kind.isAccessor ∨ kind = initializer then some .withReturnType else none
  | .addParameters => if kind = getter then some .withParameters else none
  | .failable => if kind = initializer then none else some .failableNotInitializer

/-- The kinds that take one parameter at most. -/
def takesOneParameter (kind : FunctionKind) : Bool :=
  kind = setter ∨ kind.isObserver

/-- Refuses an operation that the kind forbids. -/
def checkAllowed (kind : FunctionKind) (operation : Operation) (name : String) :
    Except GrammarError Unit :=
  match kind.forbids? operation with
  | some rule => .error ⟨name, rule⟩
  | none => .ok ()

/-- Refuses to add parameters that do not fit the kind. To add none is always allowed. -/
def checkParameterCount (kind : FunctionKind) (name : String) (current added : Int) :
    Except GrammarError Unit := do
  if added = 0 then
    return
  kind.checkAllowed .addParameters name
  if kind.takesOneParameter ∧ 1 < current + added then
    throw ⟨name, .oneParameter⟩

end FunctionKind

end SwiftDecl
