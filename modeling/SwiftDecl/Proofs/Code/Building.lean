import SwiftDecl.Code
import SwiftDecl.Proofs.Outcome

/-!
# What the operations on a block append

Every operation on a block keeps what is there and appends a block of its own. The lemmas below
say which block that is, so that a proof about a block that grows is a proof about appending.
`Code.Built` holds of the blocks that come out of these operations, as opposed to those that are
put together by hand from parts and arguments.
-/

namespace SwiftDecl.Code

/-! ## Appending -/

@[simp] theorem append_parts (a b : Code) : (a ++ b).parts = a.parts ++ b.parts := rfl

@[simp] theorem append_arguments (a b : Code) :
    (a ++ b).arguments = a.arguments ++ b.arguments := rfl

@[simp] theorem ofParts_parts (parts : List Part) : (ofParts parts).parts = parts := rfl

@[simp] theorem ofParts_arguments (parts : List Part) : (ofParts parts).arguments = [] := rfl

/-- Blocks with the same parts and the same arguments are equal. -/
theorem eq_of_fields {a b : Code} (hparts : a.parts = b.parts)
    (harguments : a.arguments = b.arguments) : a = b := by
  cases a
  cases b
  cases hparts
  cases harguments
  rfl

@[simp] theorem empty_append (c : Code) : ({} : Code) ++ c = c :=
  eq_of_fields (by simp) (by simp)

@[simp] theorem append_empty (c : Code) : c ++ ({} : Code) = c :=
  eq_of_fields (by simp) (by simp)

theorem append_assoc (a b c : Code) : a ++ b ++ c = a ++ (b ++ c) :=
  eq_of_fields (by simp) (by simp)

/-- A block is empty if it has no parts. -/
theorem isEmpty_iff {c : Code} : c.isEmpty = true ↔ c.parts = [] := by
  simp [isEmpty]

/-! ## The operations -/

/-- An added template appends its block. -/
theorem add_eq_ok_iff {c c' : Code} {format : String} {arguments : List Argument} :
    c.add format arguments = .ok c' ↔
      ∃ added, Template.instantiate format arguments = .ok added ∧ c' = c ++ added := by
  simp only [add, bind_eq_ok_iff, pure_eq_ok_iff]

/-- An added template with named arguments appends its block. -/
theorem addNamed_eq_ok_iff {c c' : Code} {format : String}
    {arguments : List (String × Argument)} :
    c.addNamed format arguments = .ok c' ↔
      ∃ added, Template.instantiateNamed format arguments = .ok added ∧ c' = c ++ added := by
  simp only [addNamed, bind_eq_ok_iff, pure_eq_ok_iff]

/-- An added statement appends the block of its template and a line end. -/
theorem addStatement_eq_ok_iff {c c' : Code} {format : String} {arguments : List Argument} :
    c.addStatement format arguments = .ok c' ↔
      ∃ added, Template.instantiate format arguments = .ok added ∧
        c' = c ++ (added ++ ofParts [.text "\n"]) := by
  simp only [addStatement, ofTemplate, bind_eq_ok_iff, pure_eq_ok_iff]

/-- A control flow that opens appends its header and an indentation. -/
theorem beginControlFlow_eq_ok_iff {c c' : Code} {name condition : String}
    {arguments : List Argument} :
    c.beginControlFlow name condition arguments = .ok c' ↔
      ∃ header, Template.instantiate (headerTemplate name condition) arguments = .ok header ∧
        c' = c ++ (header ++ ofParts [.directive .indent]) := by
  simp only [beginControlFlow, bind_eq_ok_iff, pure_eq_ok_iff, add_eq_ok_iff]
  constructor
  · rintro ⟨_, ⟨header, h, rfl⟩, rfl⟩
    exact ⟨header, h, append_assoc _ _ _⟩
  · rintro ⟨header, h, rfl⟩
    exact ⟨c ++ header, ⟨header, h, rfl⟩, (append_assoc _ _ _).symm⟩

/-- The parts that close a branch: back by one indentation, and a brace before the next header. -/
def branchEnd : Code :=
  ofParts [.directive .unindent, .text "\x7d "]

theorem closeBranch_eq (c : Code) : c.closeBranch = c ++ branchEnd :=
  append_assoc _ _ _

/-- Closing a branch changes the block. -/
theorem append_branchEnd_ne (c : Code) : c ++ branchEnd ≠ c := by
  intro h
  have hlength := congrArg (fun b : Code => b.parts.length) h
  simp [branchEnd] at hlength

/-- The next branch opens if its header can be filled; otherwise the branch before it is closed
and the error is told. -/
theorem nextControlFlow_cases (c : Code) (name condition : String) (arguments : List Argument) :
    (∃ header, Template.instantiate (headerTemplate name condition) arguments = .ok header ∧
      c.nextControlFlow name condition arguments =
        (c ++ (branchEnd ++ (header ++ ofParts [.directive .indent])), none)) ∨
    (∃ e, Template.instantiate (headerTemplate name condition) arguments = .error e ∧
      c.nextControlFlow name condition arguments = (c ++ branchEnd, some e)) := by
  cases h : Template.instantiate (headerTemplate name condition) arguments with
  | ok header =>
    left
    have hopen : c.closeBranch.beginControlFlow name condition arguments =
        .ok (c.closeBranch ++ (header ++ ofParts [.directive .indent])) :=
      beginControlFlow_eq_ok_iff.2 ⟨header, h, rfl⟩
    refine ⟨header, rfl, ?_⟩
    rw [nextControlFlow, hopen, closeBranch_eq, append_assoc]
  | error e =>
    right
    have hrefused : c.closeBranch.beginControlFlow name condition arguments = .error e := by
      simp [beginControlFlow, add, h, bind, Except.bind]
    refine ⟨e, rfl, ?_⟩
    rw [nextControlFlow, hrefused, closeBranch_eq]

/-- A control flow that ends appends the way back and a brace. -/
theorem endControlFlow_eq (c : Code) :
    c.endControlFlow = c ++ ofParts [.directive .unindent, .text "\x7d\n"] :=
  append_assoc _ _ _

end SwiftDecl.Code
