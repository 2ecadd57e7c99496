import SwiftDecl.Proofs.Code.Filling
import SwiftDecl.Proofs.Declaration.Parts
import SwiftDecl.Proofs.FunctionKind
import SwiftDecl.Proofs.Layout.InTurn

/-!
# References to declarations

A slot for names takes a parameter, a type or a function and writes the name that it carries. The
declaration itself prints this name between backticks if it is a reserved word, and the name of an
operator without its mark. So a reference is the name that is printed for all names but these
(`NamedDecl.reference_eq_printed_iff`).
-/

namespace SwiftDecl

open Layout

/-- A declaration that can be referred to, with how it is written. A function is written in full. -/
inductive NamedDecl where
  | parameter (p : Parameter) (withType : Bool)
  | typeDecl (t : TypeDecl) (implied : ModifierSet)
  | function (f : FunctionDecl) (implied : ModifierSet)

/-- What a parameter writes before its name. -/
def Parameter.beforeName (p : Parameter) : Layout :=
  match p.label with
  | some label => if label = p.name then [] else [.text (label ++ " ")]
  | none => []

/-- What a parameter writes after its name. -/
def Parameter.afterName (p : Parameter) (withType : Bool) : Layout :=
  if withType then
    .text ": " :: modifiersLayout p.modifiers {} ++ [.text p.type.text] ++
      (if p.variadic then [.text "..."] else []) ++ Code.defaultLayout p.default
  else []

/-- What a type writes before its name. -/
def TypeDecl.beforeName (t : TypeDecl) (implied : ModifierSet) : Layout :=
  docLayout t.doc t.doc.layout ++ attributesLayout t.attributes ++
    modifiersLayout t.modifiers implied ++ [.text (t.kind.keyword ++ " ")]

/-- What a type writes after its name. -/
def TypeDecl.afterName (t : TypeDecl) : Layout :=
  (if t.superTypes.isEmpty then []
    else [.text ": ", .text (", ".intercalate (t.superTypes.map TypeName.text))]) ++
  ([.text " \x7b\n", .indent] ++ FunctionDecl.layoutMembers t.functions ++
    [.unindent, .text "\x7d\n"])

/-- What a function writes before its name. -/
def FunctionDecl.beforeName (f : FunctionDecl) (implied : ModifierSet) : Layout :=
  docLayout f.doc f.doc.layout ++ attributesLayout f.attributes ++
    modifiersLayout f.modifiers implied ++ (if f.kind.isKeywordless then [] else [.text "func "])

/-- What a function writes after its name. -/
def FunctionDecl.afterName (f : FunctionDecl) : Layout :=
  f.signature.layout none (!f.kind.hidesEmptyParameters) (!f.kind.hidesParameterTypes) ++
    if f.isAbstract then []
    else [.text " \x7b\n", .indent] ++ f.statements ++ [.unindent, .text "\x7d\n"]

namespace NamedDecl

/-- The declaration as an argument of a template. -/
def argument : NamedDecl → Argument
  | parameter p _ => .parameter p
  | typeDecl t _ => .typeDecl t
  | function f _ => .function f

/-- The name that the declaration carries. -/
def name : NamedDecl → String
  | parameter p _ => p.name
  | typeDecl t _ => t.name
  | function f _ => f.name

/-- The name that the declaration prints. -/
def printed : NamedDecl → String
  | parameter p _ => escapeReserved p.name
  | typeDecl t _ => escapeReserved t.name
  | function f _ => FunctionKind.printedName f.name

/-- How the declaration is written. -/
def layout : NamedDecl → Layout
  | parameter p withType => p.layout withType
  | typeDecl t implied => t.layout implied
  | function f implied => f.layout implied false

/-- What the declaration writes before its name. -/
def before : NamedDecl → Layout
  | parameter p _ => p.beforeName
  | typeDecl t implied => t.beforeName implied
  | function f implied => f.beforeName implied

/-- What the declaration writes after its name. -/
def after : NamedDecl → Layout
  | parameter p withType => p.afterName withType
  | typeDecl t _ => t.afterName
  | function f _ => f.afterName

/-- The name stands for itself: it is no reserved word, or the kind of the function keeps its
reserved name, and it is not the name of an operator. -/
def PrintsName : NamedDecl → Prop
  | parameter p _ => isReserved p.name = false
  | typeDecl t _ => isReserved t.name = false
  | function f _ =>
    f.kind.keepsName = true ∨ (f.kind ≠ .operator ∧ isReserved f.name = false)

end NamedDecl

/-! ## Where a name is printed -/

theorem Parameter.layout_eq (p : Parameter) (withType : Bool) :
    p.layout withType = p.beforeName ++ .text (escapeReserved p.name) :: p.afterName withType := by
  obtain ⟨name, type, label, modifiers, default, variadic⟩ := p
  unfold Parameter.layout
  rfl

/-- A type prints its name after its keyword and a space. -/
theorem TypeDecl.layout_alike (t : TypeDecl) (implied : ModifierSet) :
    Alike (t.layout implied)
      (t.beforeName implied ++ .text (escapeReserved t.name) :: t.afterName) := by
  have hkeyword : Alike [.text (t.kind.keyword ++ " " ++ escapeReserved t.name)]
      [.text (t.kind.keyword ++ " "), .text (escapeReserved t.name)] :=
    (alike_text_append _ _).symm
  have hfront := alike_refl (docLayout t.doc t.doc.layout ++ attributesLayout t.attributes ++
    modifiersLayout t.modifiers implied)
  -- The declaration writes its keyword and its name as one text, which is cut in two here.
  have hwhole := (hfront.append hkeyword).append (alike_refl t.afterName)
  rw [TypeDecl.layout_eq, TypeDecl.headerLayout]
  simpa [TypeDecl.beforeName, TypeDecl.afterName] using hwhole

/-- A signature writes the name first. -/
theorem Signature.layout_some (s : Signature) (name : String) (emptyParentheses withTypes : Bool) :
    s.layout (some name) emptyParentheses withTypes =
      .text name :: s.layout none emptyParentheses withTypes := by
  obtain ⟨typeVariables, parameters, returns, isThrowing, isAsync, isFailable⟩ := s
  unfold Signature.layout
  simp

theorem FunctionDecl.layout_eq (f : FunctionDecl) (implied : ModifierSet) :
    f.layout implied false =
      f.beforeName implied ++ .text (FunctionKind.printedName f.name) :: f.afterName := by
  rw [layout_of_full f.not_isShort, headerLayout, Signature.layout_some]
  simp [beforeName, afterName]

/-! ## Names that stand for themselves -/

/-- A name is written as it is if it is not reserved. -/
theorem escapeReserved_eq_self_iff {name : String} :
    name = escapeReserved name ↔ isReserved name = false := by
  unfold escapeReserved
  constructor
  · intro h
    rw [← Bool.not_eq_true]
    intro hreserved
    rw [if_pos hreserved] at h
    have hlength := congrArg String.length h
    have htick : "`".length = 1 := rfl
    rw [String.length_append, String.length_append, htick] at hlength
    omega
  · intro h
    rw [if_neg (by simp [h])]

/-- A mark in front changes a name. -/
theorem FunctionKind.operatorMark_append_ne (symbol : String) :
    operatorMark ++ symbol ≠ symbol := by
  intro h
  have hlength := congrArg String.length h
  simp [operatorMark] at hlength

theorem FunctionKind.eq_printedName_iff {name : String} :
    name = printedName name ↔
      (ofName name).keepsName = true ∨ (ofName name ≠ .operator ∧ isReserved name = false) := by
  unfold printedName
  by_cases hkeeps : (ofName name).keepsName = true
  · simp [hkeeps]
  · by_cases hoperator : ofName name = .operator
    · -- The mark is left out, so what is printed is shorter than the name.
      obtain ⟨symbol, rfl⟩ := ofName_eq_operator_iff.1 hoperator
      have hdisplay : displayName (operatorMark ++ symbol) = symbol := by
        rw [displayName, afterOperatorMark?_eq_some_iff.2 rfl, Option.getD_some]
      have hne := operatorMark_append_ne symbol
      simp [hoperator, hdisplay, hne, keepsName]
    · simp [hkeeps, hoperator, escapeReserved_eq_self_iff]

namespace NamedDecl

/-- A declaration prints its name once, between what it writes before and after. -/
theorem layout_alike (n : NamedDecl) :
    Alike n.layout (n.before ++ .text n.printed :: n.after) := by
  cases n with
  | parameter p withType =>
    change Alike (p.layout withType) _
    rw [p.layout_eq]
    exact alike_refl _
  | typeDecl t implied => exact t.layout_alike implied
  | function f implied =>
    change Alike (f.layout implied false) _
    rw [f.layout_eq]
    exact alike_refl _

theorem name_eq_printed_iff (n : NamedDecl) : n.name = n.printed ↔ n.PrintsName := by
  cases n with
  | parameter p _ => exact escapeReserved_eq_self_iff
  | typeDecl t _ => exact escapeReserved_eq_self_iff
  | function f _ => exact FunctionKind.eq_printedName_iff

/-- A slot for names keeps the name that the declaration carries. -/
theorem convert_name (n : NamedDecl) : Slot.name.convert n.argument = .ok (.text n.name) := by
  cases n <;> rfl

/-- A reference to a parameter, a type or a function writes the name that it carries, wherever it
stands. The declaration prints a name between what it writes before and after. The two are the same
exactly if the name stands for itself, so not for names that are escaped and not for operators. -/
theorem reference_eq_printed_iff (n : NamedDecl) :
    (∃ kept, Slot.name.convert n.argument = .ok kept ∧ kept.placed .name = [.text n.name]) ∧
      (∃ c, Code.ofTemplate "%N" [n.argument] = .ok c ∧ c.layout = [.text n.name]) ∧
      Alike n.layout (n.before ++ .text n.printed :: n.after) ∧
      (n.name = n.printed ↔ n.PrintsName) := by
  have hplaced : (Argument.text n.name).placed .name = [.text n.name] := by
    rw [Argument.placed]
    rfl
  have hfilled : Code.ofTemplate "%N" [n.argument] =
      .ok { parts := [.slot .name], arguments := [.text n.name] } := by
    cases n <;> rfl
  have hslot := Code.layout_slot .name (.text n.name) {}
  rw [Code.layout_empty, List.append_nil, hplaced] at hslot
  exact ⟨⟨_, n.convert_name, hplaced⟩, ⟨_, hfilled, hslot⟩, n.layout_alike, n.name_eq_printed_iff⟩

/-- The name of an operator is referred to with its mark. -/
theorem reference_not_printed :
    ¬ ∀ (n : NamedDecl) (c : Code), Code.ofTemplate "%N" [n.argument] = .ok c →
      Alike n.layout (n.before ++ c.layout ++ n.after) := by
  intro h
  have halike := h
    (.function { name := "op:+", doc := {}, signature := {}, body := some {} } .internal)
    { parts := [.slot .name], arguments := [.text "op:+"] } rfl
  exact absurd (halike.write {}) (by decide +kernel)

end NamedDecl

end SwiftDecl
