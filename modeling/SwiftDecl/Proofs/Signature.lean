import SwiftDecl.Signature

/-!
# Generic parameters of signatures

Adding generic parameters to a signature touches nothing else, and keeps each parameter once. A
signature whose parameters are distinct comes out the same when it is built anew.
-/

namespace SwiftDecl.Signature

/-- Known generic parameters with more after them, each kept where it first occurs. -/
def extended (known vs : List TypeVariable) : List TypeVariable :=
  vs.foldl (fun known v => if v ∈ known then known else known ++ [v]) known

@[simp] theorem extended_nil (known : List TypeVariable) : extended known [] = known := rfl

theorem extended_cons_of_mem {known vs : List TypeVariable} {v : TypeVariable} (h : v ∈ known) :
    extended known (v :: vs) = extended known vs := by
  simp [extended, h]

theorem extended_cons_of_notMem {known vs : List TypeVariable} {v : TypeVariable}
    (h : v ∉ known) : extended known (v :: vs) = extended (known ++ [v]) vs := by
  simp [extended, h]

/-- Adding generic parameters extends those of the signature and keeps the rest. -/
theorem addTypeVariables_eq (s : Signature) (vs : List TypeVariable) :
    s.addTypeVariables vs = { s with typeVariables := extended s.typeVariables vs } := by
  induction vs generalizing s with
  | nil =>
    cases s
    rfl
  | cons v vs ih =>
    have hfirst : s.addTypeVariables (v :: vs) = (s.addTypeVariable v).addTypeVariables vs := rfl
    rw [hfirst, ih, addTypeVariable]
    by_cases hv : v ∈ s.typeVariables
    · rw [if_pos hv, extended_cons_of_mem hv]
    · rw [if_neg hv, extended_cons_of_notMem hv]

/-- Distinct parameters stay distinct when more are added. -/
theorem nodup_extended {known vs : List TypeVariable} (h : known.Nodup) :
    (extended known vs).Nodup := by
  induction vs generalizing known with
  | nil => exact h
  | cons v vs ih =>
    by_cases hv : v ∈ known
    · rw [extended_cons_of_mem hv]
      exact ih h
    · rw [extended_cons_of_notMem hv]
      apply ih
      rw [List.nodup_append]
      refine ⟨h, by simp, ?_⟩
      intro a ha b hb
      rw [List.mem_singleton] at hb
      rintro rfl
      exact hv (hb ▸ ha)

/-- Parameters that are all new and distinct are added as they are. -/
theorem extended_eq_append {known vs : List TypeVariable} (h : (known ++ vs).Nodup) :
    extended known vs = known ++ vs := by
  induction vs generalizing known with
  | nil => simp
  | cons v vs ih =>
    have hv : v ∉ known := by
      intro hmem
      exact (List.nodup_append.1 h).2.2 v hmem v List.mem_cons_self rfl
    have hmoved : (known ++ [v] ++ vs).Nodup := by simpa using h
    rw [extended_cons_of_notMem hv, ih hmoved]
    simp

/-- Added parameters stand where they first occur, unless they are known. -/
theorem extended_eq (known vs : List TypeVariable) :
    extended known vs = known ++ (vs.filter fun v => v ∉ known).eraseDups := by
  induction vs generalizing known with
  | nil => simp
  | cons v vs ih =>
    by_cases hv : v ∈ known
    · rw [extended_cons_of_mem hv, ih]
      simp [hv]
    · have hlater : (vs.filter fun u => u ∉ known ++ [v]) =
          (vs.filter fun u => u ∉ known).filter fun u => !u == v := by
        rw [List.filter_filter]
        apply List.filter_congr
        intro u _
        simp [and_comm, Bool.beq_eq_decide_eq]
      rw [extended_cons_of_notMem hv, ih, hlater, List.filter_cons_of_pos (by simpa using hv),
        List.eraseDups_cons, List.append_assoc, List.singleton_append]

/-- A signature with distinct generic parameters comes out the same when it is built anew. -/
theorem reopened_eq_self {s : Signature} (h : s.typeVariables.Nodup) : s.reopened = s := by
  rw [reopened, addTypeVariables_eq]
  have hsame : extended [] s.typeVariables = s.typeVariables :=
    extended_eq_append (by simpa using h)
  rw [hsame]
  cases s
  rfl

end SwiftDecl.Signature
