import SwiftDecl.Proofs.Code.Flow
import SwiftDecl.Proofs.Draft.Grammar

/-!
# Control flow in drafts

The calls on a draft that write statements and control flows nest if each branch that goes on or
ends has been opened before (`DraftCall.Nests`). After calls that nest and are accepted the body of
a draft is made by statements and control flows, with as many open as the calls left open
(`FunctionDraft.flowing_of_run`).
-/

namespace SwiftDecl

namespace DraftCall

/-- The call leaves the body alone. -/
def SparesBody : DraftCall → Prop
  | addCode _ | addNamedCode _ _ | addComment _ _ | addStatement _ _ | beginControlFlow _ _ _
  | nextControlFlow _ _ _ | endControlFlow => False
  | _ => True

/-- The call writes a statement, or opens, goes on with or ends a control flow; the numbers count
the control flows that are open before and after it. Or it leaves the body alone. -/
inductive Nests : Nat → DraftCall → Nat → Prop where
  | addStatement {n : Nat} {format : String} {arguments : List Argument} :
      Code.CleanStatement format arguments → Nests n (.addStatement format arguments) n
  | beginControlFlow {n : Nat} {name condition : String} {arguments : List Argument} :
      Code.CleanHeader name condition arguments →
        Nests n (.beginControlFlow name condition arguments) (n + 1)
  | nextControlFlow {n : Nat} {name condition : String} {arguments : List Argument} :
      Code.CleanHeader name condition arguments →
        Nests (n + 1) (.nextControlFlow name condition arguments) (n + 1)
  | endControlFlow {n : Nat} : Nests (n + 1) .endControlFlow n
  | spares {n : Nat} {c : DraftCall} : c.SparesBody → Nests n c n

/-- The calls nest, one after the other. -/
inductive AllNest : Nat → List DraftCall → Nat → Prop where
  | nil {n : Nat} : AllNest n [] n
  | cons {n m l : Nat} {c : DraftCall} {cs : List DraftCall} :
      c.Nests n m → AllNest m cs l → AllNest n (c :: cs) l

end DraftCall

namespace FunctionDraft

variable {d d' : FunctionDraft}

/-- An accepted attempt leads to the draft that it gives. -/
theorem attempt_accepted {r : Except Fault FunctionDraft} (h : (d.attempt r).2 = none) :
    r = .ok (d.attempt r).1 := by
  cases r with
  | ok d' => rfl
  | error fault => cases h

/-- A call that leaves the body alone, accepted or refused. -/
theorem body_call_of_spares {c : DraftCall} (h : c.SparesBody) : (d.call c).1.body = d.body := by
  have hattempt : ∀ {r : Except Fault FunctionDraft}, (∀ d', r = .ok d' → d'.body = d.body) →
      (d.attempt r).1.body = d.body := by
    intro r hr
    cases r with
    | ok d' => exact hr d' rfl
    | error fault => rfl
  cases c with
  | addDoc source =>
    refine hattempt fun d' hd => ?_
    obtain ⟨_, added, _, rfl⟩ := addDoc_eq_ok_iff.1 hd
    rfl
  | addAttributes attributes => rfl
  | tag key value => rfl
  | addModifiers modifiers =>
    refine hattempt fun d' hd => ?_
    obtain ⟨_, rfl⟩ := addModifiers_eq_ok_iff.1 hd
    rfl
  | addTypeVariables vs =>
    refine hattempt fun d' hd => ?_
    obtain ⟨_, rfl⟩ := addTypeVariables_eq_ok_iff.1 hd
    rfl
  | returns type =>
    refine hattempt fun d' hd => ?_
    obtain ⟨_, rfl⟩ := returns_eq_ok_iff.1 hd
    rfl
  | addParameter source =>
    refine hattempt fun d' hd => ?_
    -- One parameter is a batch of one.
    obtain ⟨p, _, hp⟩ := addParameter_eq_ok_iff.1 hd
    obtain ⟨_, rfl⟩ := addParameters_eq_ok_iff.1 hp
    rfl
  | addParameters ps =>
    refine hattempt fun d' hd => ?_
    obtain ⟨_, rfl⟩ := addParameters_eq_ok_iff.1 hd
    rfl
  | setAbstract value =>
    refine hattempt fun d' hd => ?_
    obtain ⟨_, rfl⟩ := setAbstract_eq_ok_iff.1 hd
    rfl
  | setFailable value =>
    refine hattempt fun d' hd => ?_
    obtain ⟨_, rfl⟩ := setFailable_eq_ok_iff.1 hd
    rfl
  | setThrowing value => rfl
  | setAsync value => rfl
  | addLocalTypes types =>
    refine hattempt fun d' hd => ?_
    obtain ⟨_, rfl⟩ := addLocalTypes_eq_ok_iff.1 hd
    rfl
  | _ =>
    -- The other calls write into the body.
    cases h

/-- An accepted call for the next branch goes on with the control flow. -/
theorem flowing_of_next {n : Nat} {name condition : String} {arguments : List Argument}
    (hclean : Code.CleanHeader name condition arguments) (hd : d.body.Flowing (n + 1))
    (haccepted : (d.nextControlFlow name condition arguments).2 = none) :
    (d.nextControlFlow name condition arguments).1.body.Flowing (n + 1) := by
  rcases d.nextControlFlow_cases name condition arguments with ⟨_, hcall⟩ | ⟨_, hcall⟩
  · rw [hcall] at haccepted
    cases haccepted
  · rw [hcall] at haccepted ⊢
    cases hnext : d.body.nextControlFlow name condition arguments with
    | mk body refused =>
      rw [hnext] at haccepted
      have hnone : refused = none := Option.map_eq_none_iff.1 haccepted
      rw [hnone] at hnext
      exact .nextControlFlow hd hclean hnext

/-- An accepted call that nests goes on with the statements and control flows of the body. -/
theorem flowing_of_call {c : DraftCall} {n m : Nat} (h : c.Nests n m) (hd : d.body.Flowing n)
    (haccepted : (d.call c).2 = none) : (d.call c).1.body.Flowing m := by
  cases h with
  | addStatement hclean =>
    -- An accepted call has the body that its block operation gives.
    obtain ⟨_, body, hbody, hcall⟩ := addStatement_eq_ok_iff.1 (attempt_accepted haccepted)
    have hsame : (d.call (.addStatement _ _)).1.body = body := congrArg FunctionDraft.body hcall
    rw [hsame]
    exact .addStatement hd hclean hbody
  | beginControlFlow hclean =>
    obtain ⟨_, body, hbody, hcall⟩ := beginControlFlow_eq_ok_iff.1 (attempt_accepted haccepted)
    have hsame : (d.call (.beginControlFlow _ _ _)).1.body = body :=
      congrArg FunctionDraft.body hcall
    rw [hsame]
    exact .beginControlFlow hd hclean hbody
  | nextControlFlow hclean =>
    -- An accepted header, after the end of the branch before.
    exact flowing_of_next hclean hd haccepted
  | endControlFlow =>
    obtain ⟨_, hcall⟩ := endControlFlow_eq_ok_iff.1 (attempt_accepted haccepted)
    have hsame : (d.call .endControlFlow).1.body = d.body.endControlFlow :=
      congrArg FunctionDraft.body hcall
    rw [hsame]
    exact .endControlFlow hd
  | spares hspares =>
    rw [body_call_of_spares hspares]
    exact hd

/-- Accepted calls that nest make a body of statements and control flows. -/
theorem flowing_of_run {calls : List DraftCall} {n m : Nat} (h : DraftCall.AllNest n calls m)
    (hd : d.body.Flowing n) (haccepted : ∀ o ∈ d.outcomes calls, o = none) :
    (d.run calls).body.Flowing m := by
  induction h generalizing d with
  | nil => exact hd
  | cons hc _ ih =>
    have hfirst := flowing_of_call hc hd (haccepted _ List.mem_cons_self)
    exact ih hfirst fun o ho => haccepted o (List.mem_cons_of_mem _ ho)

end FunctionDraft

end SwiftDecl
