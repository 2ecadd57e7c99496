import SwiftDecl.Text.Quoted

/-!
# Declaration modifiers

The modifiers of Swift declarations, in the order in which they are written before a
declaration, and sets of them. A set keeps its members in that order and each once, so two
sets with the same members are equal.
-/

namespace SwiftDecl

/-- A declaration modifier. The order of the constructors is the order of writing. -/
inductive Modifier where
  | openAccess
  | publicAccess
  | packageAccess
  | internalAccess
  | fileprivateAccess
  | privateAccess
  | classMember
  | staticMember
  | final
  | required
  | convenience
  | override
  | dynamic
  | optional
  | nonisolated
  | lazy
  | weak
  | unowned
  | mutating
  | nonmutating
  | prefixOperator
  | postfixOperator
  | infixOperator
  | inoutParameter
deriving DecidableEq, Repr

namespace Modifier

/-- All modifiers, in the order of writing. -/
def all : List Modifier :=
  [openAccess, publicAccess, packageAccess, internalAccess, fileprivateAccess, privateAccess,
   classMember, staticMember, final, required, convenience, override, dynamic, optional,
   nonisolated, lazy, weak, unowned, mutating, nonmutating, prefixOperator, postfixOperator,
   infixOperator, inoutParameter]

/-- The keyword that Swift spells the modifier with. -/
def keyword : Modifier → String
  | openAccess => "open"
  | publicAccess => "public"
  | packageAccess => "package"
  | internalAccess => "internal"
  | fileprivateAccess => "fileprivate"
  | privateAccess => "private"
  | classMember => "class"
  | staticMember => "static"
  | final => "final"
  | required => "required"
  | convenience => "convenience"
  | override => "override"
  | dynamic => "dynamic"
  | optional => "optional"
  | nonisolated => "nonisolated"
  | lazy => "lazy"
  | weak => "weak"
  | unowned => "unowned"
  | mutating => "mutating"
  | nonmutating => "nonmutating"
  | prefixOperator => "prefix"
  | postfixOperator => "postfix"
  | infixOperator => "infix"
  | inoutParameter => "inout"

/-- The name of the modifier as a constant: its keyword in capitals. -/
def constantName (m : Modifier) : String :=
  String.ofList (m.keyword.toList.map Char.toUpper)

/-- The modifier spelled with a keyword. -/
def ofKeyword? (keyword : String) : Option Modifier :=
  all.find? fun m => m.keyword == keyword

end Modifier

/-- A keyword that is no modifier's. -/
structure UnknownModifier where
  keyword : String
deriving DecidableEq, Repr

/-- The text of the error. -/
def UnknownModifier.message (e : UnknownModifier) : String :=
  "Unknown modifier: " ++ Text.quoted e.keyword

namespace Modifier

/-- The modifier spelled with a keyword, or the error that there is none. -/
def ofKeyword (keyword : String) : Except UnknownModifier Modifier :=
  match ofKeyword? keyword with
  | some m => .ok m
  | none => .error ⟨keyword⟩

/-- The position of the modifier in the order of writing. -/
def rank (m : Modifier) : Nat :=
  all.idxOf m

/-- The modifiers in the order of writing, repeats kept. -/
def sort (ms : List Modifier) : List Modifier :=
  ms.mergeSort fun a b => a.rank ≤ b.rank

/-- The list of all modifiers leaves none out. -/
theorem mem_all (m : Modifier) : m ∈ all := by
  cases m <;> decide

end Modifier

/-- A set of modifiers, held in the order of writing. -/
structure ModifierSet where
  /-- The members, each once and in the order of writing. -/
  toList : List Modifier
  toList_eq : toList = Modifier.all.filter fun m => toList.contains m
deriving DecidableEq

namespace ModifierSet

/-- The set of the modifiers of a list. -/
def ofList (ms : List Modifier) : ModifierSet where
  toList := Modifier.all.filter fun m => ms.contains m
  toList_eq := by
    apply List.filter_congr
    intro m _
    simp [Modifier.mem_all]

/-- The set without members. -/
def empty : ModifierSet :=
  ofList []

instance : EmptyCollection ModifierSet := ⟨empty⟩

instance : Inhabited ModifierSet := ⟨empty⟩

instance : Membership Modifier ModifierSet where
  mem s m := m ∈ s.toList

instance (m : Modifier) (s : ModifierSet) : Decidable (m ∈ s) :=
  inferInstanceAs (Decidable (m ∈ s.toList))

/-- The members of either set. -/
def union (s t : ModifierSet) : ModifierSet :=
  ofList (s.toList ++ t.toList)

instance : Union ModifierSet := ⟨union⟩

/-- The set has no members. -/
def isEmpty (s : ModifierSet) : Bool :=
  s.toList.isEmpty

/-- The set of a list has the members of the list. -/
@[simp] theorem mem_ofList {m : Modifier} {ms : List Modifier} : m ∈ ofList ms ↔ m ∈ ms := by
  show m ∈ (ofList ms).toList ↔ m ∈ ms
  simp [ofList, Modifier.mem_all]

/-- Sets with the same members are equal. -/
theorem ext {s t : ModifierSet} (h : ∀ m, m ∈ s ↔ m ∈ t) : s = t := by
  obtain ⟨xs, hxs⟩ := s
  obtain ⟨ys, hys⟩ := t
  have hxy : xs = ys := by
    rw [hxs, hys]
    apply List.filter_congr
    intro m _
    have hm : m ∈ xs ↔ m ∈ ys := h m
    simp [hm]
  subst hxy
  rfl

/-- The modifiers that a type or a file implies for its declarations. -/
def internal : ModifierSet :=
  ofList [.internalAccess]

end ModifierSet

end SwiftDecl
