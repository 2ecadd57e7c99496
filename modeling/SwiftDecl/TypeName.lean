/-!
# Type names

A type name refers to a type: by its name, by applying a generic type, as an optional, an array
or a dictionary, or as a generic parameter. Its text is Swift's type syntax, which leaves the
module out. Two type names are equal if they have the same structure, modules and bounds
included.
-/

namespace SwiftDecl

/-- The name of a declared type: its module and its names from the outermost type inwards. -/
structure DeclaredName where
  module : String := ""
  names : List String
deriving DecidableEq, Repr, Inhabited

/-- The text of a declared name, without its module. -/
def DeclaredName.text (n : DeclaredName) : String :=
  ".".intercalate n.names

/-- The innermost name, if there is a name at all. -/
def DeclaredName.simpleName? (n : DeclaredName) : Option String :=
  n.names.getLast?

/-- A reference to a type. -/
inductive TypeName where
  | declared (name : DeclaredName)
  | parameterized (raw : DeclaredName) (arguments : List TypeName)
  | optional (wrapped : TypeName)
  | array (element : TypeName)
  | dictionary (key value : TypeName)
  | typeVariable (name : String) (bounds : List TypeName)
deriving Repr, Inhabited

namespace TypeName

/-- The type with a plain name and no module. -/
def named (name : String) : TypeName :=
  .declared { names := [name] }

mutual

/-- The text of a type name in Swift's syntax. -/
def text : TypeName → String
  | .declared name => name.text
  | .parameterized raw arguments => raw.text ++ "<" ++ ", ".intercalate (texts arguments) ++ ">"
  | .optional wrapped => wrapped.text ++ "?"
  | .array element => "[" ++ element.text ++ "]"
  | .dictionary key value => "[" ++ key.text ++ ": " ++ value.text ++ "]"
  | .typeVariable name _ => name

/-- The texts of several type names. -/
def texts : List TypeName → List String
  | [] => []
  | t :: ts => t.text :: texts ts

end

/-- The texts of several type names are the texts of each. -/
theorem texts_eq_map (ts : List TypeName) : texts ts = ts.map text := by
  induction ts with
  | nil => rfl
  | cons t ts ih => simp [texts, ih]

/-! ## Equality -/

mutual

/-- The two type names have the same structure. -/
def same : TypeName → TypeName → Bool
  | .declared n, .declared m => n = m
  | .parameterized n as, .parameterized m bs => n = m && sameList as bs
  | .optional a, .optional b => same a b
  | .array a, .array b => same a b
  | .dictionary k v, .dictionary l w => same k l && same v w
  | .typeVariable n as, .typeVariable m bs => n = m && sameList as bs
  | _, _ => false

/-- The two lists have the same length and type names of the same structure. -/
def sameList : List TypeName → List TypeName → Bool
  | [], [] => true
  | a :: as, b :: bs => same a b && sameList as bs
  | _, _ => false

end

mutual

/-- Type names of the same structure are equal. -/
theorem same_iff : ∀ a b : TypeName, same a b = true ↔ a = b
  | .declared n, b => by cases b <;> simp [same]
  | .parameterized n as, b => by
    cases b <;> simp [same]
    case parameterized m bs => rw [sameList_iff as bs]; intro _; rfl
  | .optional a, b => by
    cases b <;> simp [same]
    case optional b => exact same_iff a b
  | .array a, b => by
    cases b <;> simp [same]
    case array b => exact same_iff a b
  | .dictionary k v, b => by
    cases b <;> simp [same]
    case dictionary l w => rw [same_iff k l, same_iff v w]
  | .typeVariable n as, b => by
    cases b <;> simp [same]
    case typeVariable m bs => rw [sameList_iff as bs]; intro _; rfl

/-- Lists of type names of the same structures are equal. -/
theorem sameList_iff : ∀ as bs : List TypeName, sameList as bs = true ↔ as = bs
  | [], bs => by cases bs <;> simp [sameList]
  | a :: as, bs => by
    cases bs <;> simp [sameList]
    case cons b bs => rw [same_iff a b, sameList_iff as bs]

end

instance : DecidableEq TypeName := fun a b => decidable_of_iff _ (same_iff a b)

/-! ## Types of the standard library -/

/-- The type of a name in the module of the standard library. -/
def standard (name : String) : TypeName :=
  .declared { module := "Swift", names := [name] }

/-- The type of no value. -/
def void : TypeName :=
  standard "Void"

/-- The type of truth values. -/
def bool : TypeName :=
  standard "Bool"

/-- The type of integers. -/
def int : TypeName :=
  standard "Int"

/-- The type of floating point numbers. -/
def double : TypeName :=
  standard "Double"

/-- The type of texts. -/
def string : TypeName :=
  standard "String"

/-- The type that stands for "no value", whatever its module. -/
def isVoid : TypeName → Bool
  | .declared n => n.names = ["Void"]
  | _ => false

end TypeName

/-- A generic parameter with the types that it conforms to. -/
structure TypeVariable where
  name : String
  bounds : List TypeName := []
deriving DecidableEq, Repr, Inhabited

/-- A generic parameter as a reference to it. -/
def TypeVariable.toTypeName (v : TypeVariable) : TypeName :=
  .typeVariable v.name v.bounds

/-- The text of a generic parameter: its name and, after a colon, its bounds. -/
def TypeVariable.text (v : TypeVariable) : String :=
  if v.bounds.isEmpty then v.name
  else v.name ++ ": " ++ " & ".intercalate (v.bounds.map TypeName.text)

end SwiftDecl
