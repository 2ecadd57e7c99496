import SwiftDecl.FunctionKind

/-!
# Names and kinds of functions

The name of a function selects its kind: a reserved name stands for a kind of its own, the mark of
operators for operators, and a plain name for ordinary functions.
-/

namespace SwiftDecl

namespace FunctionKind

/-- The name is none of the reserved names, and carries no mark of operators. -/
structure IsPlainName (name : String) : Prop where
  not_reserved : ∀ kind : FunctionKind, kind.reservedName? ≠ some name
  not_marked : ∀ symbol, name ≠ operatorMark ++ symbol

/-- A reserved name selects its kind. -/
theorem ofName_of_reserved {kind : FunctionKind} {name : String}
    (h : kind.reservedName? = some name) : ofName name = kind := by
  cases kind <;> cases h <;> rfl

/-- What stands after the mark of a name that carries it. -/
theorem afterOperatorMark?_eq_some_iff {name symbol : String} :
    afterOperatorMark? name = some symbol ↔ name = operatorMark ++ symbol := by
  unfold afterOperatorMark?
  rw [← String.toList_inj, String.toList_append]
  have hmark : operatorMark.length = operatorMark.toList.length := rfl
  constructor
  · intro h
    split at h
    · next hmarked =>
      obtain ⟨rest, hrest⟩ := List.isPrefixOf_iff_prefix.1 hmarked
      rw [← hrest, hmark, List.drop_left, Option.some.injEq] at h
      rw [← hrest, ← h, String.toList_ofList]
    · cases h
  · intro h
    have hmarked : operatorMark.toList.isPrefixOf name.toList = true := by
      rw [h, List.isPrefixOf_iff_prefix]
      exact List.prefix_append _ _
    rw [if_pos hmarked, h, hmark, List.drop_left, String.ofList_toList]

/-- No reserved name carries the mark of operators. -/
theorem reservedName?_ne_marked (kind : FunctionKind) (symbol : String) :
    kind.reservedName? ≠ some (operatorMark ++ symbol) := by
  -- Each reserved name is looked at: it does not start with the mark.
  have hunmarked : ∀ name, kind.reservedName? = some name → afterOperatorMark? name = none := by
    intro name hname
    cases kind <;> cases hname <;> rfl
  intro h
  have hmarked := afterOperatorMark?_eq_some_iff.2 (rfl : operatorMark ++ symbol = _)
  rw [hunmarked _ h] at hmarked
  cases hmarked

/-- A name that is not reserved selects operators by their mark, and ordinary functions without. -/
theorem ofName_of_not_reserved {name : String}
    (h : ∀ kind : FunctionKind, kind.reservedName? ≠ some name) :
    ofName name = if (afterOperatorMark? name).isSome then operator else ordinary := by
  have hnone : all.find? (fun k => k.reservedName? == some name) = none := by
    rw [List.find?_eq_none]
    intro kind _ hkind
    exact h kind (by simpa using hkind)
  rw [ofName, hnone]

/-- A name with the mark of operators selects operators. -/
theorem ofName_of_marked (symbol : String) : ofName (operatorMark ++ symbol) = .operator := by
  have hmarked := afterOperatorMark?_eq_some_iff.2 (rfl : operatorMark ++ symbol = _)
  rw [ofName_of_not_reserved fun kind => reservedName?_ne_marked kind symbol, hmarked]
  rfl

/-- A plain name selects ordinary functions. -/
theorem ofName_of_plain {name : String} (h : IsPlainName name) : ofName name = .ordinary := by
  have hunmarked : afterOperatorMark? name = none := by
    rw [Option.eq_none_iff_forall_ne_some]
    intro symbol hsymbol
    exact h.not_marked symbol (afterOperatorMark?_eq_some_iff.1 hsymbol)
  rw [ofName_of_not_reserved h.not_reserved, hunmarked]
  rfl

/-- Operators are the functions whose names carry the mark. -/
theorem ofName_eq_operator_iff {name : String} :
    ofName name = .operator ↔ ∃ symbol, name = operatorMark ++ symbol := by
  constructor
  · intro h
    unfold ofName at h
    split at h
    · next kind hkind =>
      -- No reserved name stands for operators.
      have hreserved : kind.reservedName? = some name := by simpa using List.find?_some hkind
      rw [h] at hreserved
      cases hreserved
    · split at h
      · next hmarked =>
        obtain ⟨symbol, hsymbol⟩ := Option.isSome_iff_exists.1 hmarked
        exact ⟨symbol, afterOperatorMark?_eq_some_iff.1 hsymbol⟩
      · cases h
  · rintro ⟨symbol, rfl⟩
    exact ofName_of_marked symbol

end FunctionKind

end SwiftDecl
