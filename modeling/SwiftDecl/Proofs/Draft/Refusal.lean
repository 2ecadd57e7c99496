import SwiftDecl.Proofs.Draft.Calls

/-!
# Refused calls

A refused call should leave the draft as it was. Each call but one checks everything before it
changes anything, so nothing of it stays when it is refused. The one exception is the call that
goes on with the next branch of a control flow: it closes the branch before it, and only then
fills the header of the next one. If the header is refused the branch stays closed, and the two
parts that close it are all that is left of the call.
-/

namespace SwiftDecl.FunctionDraft

variable {d : FunctionDraft} {c : DraftCall} {fault : Fault}

/-- A refused next branch leaves the branch before it closed. -/
theorem refused_next_branch {name condition : String} {arguments : List Argument}
    (hbody : d.isAbstract = false)
    (h : (d.call (.nextControlFlow name condition arguments)).2 = some fault) :
    (d.call (.nextControlFlow name condition arguments)).1 =
      { d with body := d.body ++ Code.branchEnd } := by
  rcases d.nextControlFlow_cases name condition arguments with ⟨habstract, _⟩ | ⟨_, hcall⟩
  · rw [hbody] at habstract
    cases habstract
  · rw [call, hcall] at h ⊢
    rcases Code.nextControlFlow_cases d.body name condition arguments with
      ⟨header, _, hnext⟩ | ⟨e, _, hnext⟩
    · simp [hnext] at h
    · rw [hnext]

/-- A refused call gives the draft back, unless it is a next branch in a function that has a
body. -/
theorem refused_call_cases (h : (d.call c).2 = some fault) :
    (d.call c).1 = d ∨
      (d.isAbstract = false ∧
        ∃ name condition arguments, c = .nextControlFlow name condition arguments) := by
  cases c with
  | addDoc source => exact .inl (attempt_refused h)
  | addAttributes attributes => cases h
  | tag key value => cases h
  | addModifiers modifiers => exact .inl (attempt_refused h)
  | addTypeVariables typeVariables => exact .inl (attempt_refused h)
  | returns type => exact .inl (attempt_refused h)
  | addParameter source => exact .inl (attempt_refused h)
  | addParameters parameters => exact .inl (attempt_refused h)
  | setAbstract value => exact .inl (attempt_refused h)
  | setFailable value => exact .inl (attempt_refused h)
  | setThrowing value => cases h
  | setAsync value => cases h
  | addLocalTypes types => exact .inl (attempt_refused h)
  | addCode source => exact .inl (attempt_refused h)
  | addNamedCode format arguments => exact .inl (attempt_refused h)
  | addComment format arguments => exact .inl (attempt_refused h)
  | addStatement format arguments => exact .inl (attempt_refused h)
  | beginControlFlow name condition arguments => exact .inl (attempt_refused h)
  | nextControlFlow name condition arguments =>
    -- Every other call is a single attempt or is never refused; this one closes a branch first.
    rcases d.nextControlFlow_cases name condition arguments with ⟨_, hcall⟩ | ⟨hbody, _⟩
    · -- An abstract function has no branch to close.
      left
      rw [call, hcall]
    · exact .inr ⟨hbody, name, condition, arguments, rfl⟩
  | endControlFlow => exact .inl (attempt_refused h)

/-- A refused call leaves the draft as it was exactly if the function is abstract or the call is
no next branch of a control flow. Otherwise the branch before it is closed, and that is all. -/
theorem refused_call_unchanged_iff (h : (d.call c).2 = some fault) :
    ((d.call c).1 = d ↔
      d.isAbstract = true ∨
        ∀ name condition arguments, c ≠ .nextControlFlow name condition arguments) ∧
    ((d.call c).1 = d ∨ (d.call c).1 = { d with body := d.body ++ Code.branchEnd }) := by
  -- The draft is given back, or a branch was closed.
  rcases refused_call_cases h with hsame | ⟨hbody, name, condition, arguments, rfl⟩
  · refine ⟨⟨fun _ => ?_, fun _ => hsame⟩, .inl hsame⟩
    by_cases habstract : d.isAbstract = true
    · exact .inl habstract
    · right
      rintro name condition arguments rfl
      -- Here the branch would have been closed, so the draft is not the same.
      rw [Bool.not_eq_true] at habstract
      have hclosed := refused_next_branch habstract h
      have hbodies := congrArg FunctionDraft.body (hclosed.symm.trans hsame)
      exact Code.append_branchEnd_ne d.body hbodies
  · -- What closes the branch is not empty, so the draft did change.
    have hchanged := refused_next_branch hbody h
    refine ⟨⟨fun hsame => ?_, ?_⟩, .inr hchanged⟩
    · have hbodies := congrArg FunctionDraft.body (hchanged.symm.trans hsame)
      exact absurd hbodies (Code.append_branchEnd_ne d.body)
    · rintro (habstract | hother)
      · rw [hbody] at habstract
        cases habstract
      · exact absurd rfl (hother name condition arguments)

/-- A second parameter of a setter is refused and changes nothing. -/
theorem refused_setter_parameter_unchanged :
    let d := Factory.setter.reach [.addParameters [{ name := "value", type := .int }]]
    let c := DraftCall.addParameters [{ name := "other", type := .int }]
    (d.call c).2 = some (.grammar ⟨"set", .oneParameter⟩) ∧ (d.call c).1 = d := by
  intro d c
  have hrefused : (d.call c).2 = some (.grammar ⟨"set", .oneParameter⟩) := rfl
  refine ⟨hrefused, (refused_call_unchanged_iff hrefused).1.2 ?_⟩
  right
  intro name condition arguments h
  simp [c] at h

/-- Refused calls can change a draft that is reached by calls: a next branch whose header has an
unknown placeholder is refused, and the branch before it is closed all the same. -/
theorem refused_next_branch_changes_draft :
    ¬ ∀ (factory : Factory) (calls : List DraftCall) (c : DraftCall) (fault : Fault),
      ((factory.reach calls).call c).2 = some fault →
        ((factory.reach calls).call c).1 = factory.reach calls := by
  intro hunchanged
  have hsame := hunchanged (.function "f") [.beginControlFlow "if" "ready" []]
    (.nextControlFlow "else if" "%Q" [])
    (.template (.unknownLetter 'Q' "else if %Q \x7b\n")) rfl
  have hparts := congrArg (fun d : FunctionDraft => d.body.parts.length) hsame
  have hbefore : ((Factory.function "f").reach
      [.beginControlFlow "if" "ready" []]).body.parts.length = 2 := rfl
  have hafter : (((Factory.function "f").reach [.beginControlFlow "if" "ready" []]).call
      (.nextControlFlow "else if" "%Q" [])).1.body.parts.length = 4 := rfl
  simp only [hbefore, hafter] at hparts
  cases hparts

end SwiftDecl.FunctionDraft
