import SwiftDecl.Proofs.Document.Steps

/-!
# Refused documents

The templates of the replay are its own, so a document is never refused for one: its name, its
texts or the grammar are at fault. That is proved of each step, and holds of steps one after the
other.
-/

namespace SwiftDecl

namespace Document

/-- The step is refused for what lies in the document only: a fault of a call is one of the
grammar. -/
def RefusesRightly {α : Type} (step : Except DocumentProblem α) : Prop :=
  ∀ fault, step = .error (.fault fault) → ∃ e, fault = .grammar e

namespace RefusesRightly

variable {α β : Type} {d : Document} {draft : FunctionDraft}

theorem ok (a : α) : RefusesRightly (.ok a) :=
  fun _ h => nomatch h

theorem bind {step : Except DocumentProblem α} {next : α → Except DocumentProblem β}
    (hstep : RefusesRightly step) (hnext : ∀ a, RefusesRightly (next a)) :
    RefusesRightly (step >>= next) := by
  intro fault h
  rcases bind_eq_error_iff.1 h with hfirst | ⟨a, -, hsecond⟩
  · exact hstep fault hfirst
  · exact hnext a fault hsecond

theorem readAll {f : α → Except DocumentProblem β} {xs : List α}
    (h : ∀ x ∈ xs, RefusesRightly (f x)) : RefusesRightly (xs.mapM f) := by
  intro fault hrefused
  obtain ⟨x, hx, hfault⟩ := mapM_eq_error hrefused
  exact h x hx fault hfault

/-- A step that is made for each item goes on from where the one before it has led. -/
theorem each {step : β → α → Except DocumentProblem β}
    (h : ∀ b x, RefusesRightly (step b x)) (xs : List α) (b : β) :
    RefusesRightly (xs.foldlM step b) := by
  induction xs generalizing b with
  | nil => exact ok b
  | cons x rest ih =>
    rw [List.foldlM_cons]
    exact (h b x).bind ih

/-- A check of the grammar is refused for the grammar, and so is a call that makes a change after
it. -/
theorem checked {r : Except GrammarError Unit} {change : Unit → Except Fault α}
    (hchange : ∀ fault, change () = .error fault → ∃ e, fault = .grammar e) :
    RefusesRightly ((Fault.ofGrammar r >>= change).mapError .fault) := by
  intro fault h
  obtain ⟨_, hcall, ⟨⟩⟩ := mapError_eq_error_iff.1 h
  rcases bind_eq_error_iff.1 hcall with hcheck | ⟨_, -, hafter⟩
  · obtain ⟨e, -, rfl⟩ := mapError_eq_error_iff.1 hcheck
    exact ⟨e, rfl⟩
  · exact hchange _ hafter

/-- A text that cannot be read is no fault of a call. -/
theorem readType (text : String) : RefusesRightly (Document.readType text) := by
  intro fault h
  obtain ⟨_, -, ⟨⟩⟩ := mapError_eq_error_iff.1 h

theorem readModifiers (keywords : List String) :
    RefusesRightly (Document.readModifiers keywords) := by
  refine readAll fun keyword _ fault h => ?_
  obtain ⟨_, -, ⟨⟩⟩ := mapError_eq_error_iff.1 h

theorem readTypeVariable (e : TypeVariableEntry) :
    RefusesRightly (Document.readTypeVariable e) :=
  (readAll fun text _ => readType text).bind fun _ => ok _

theorem readParameter (e : ParameterEntry) : RefusesRightly (Document.readParameter e) := by
  refine bind ?_ fun _ => (readModifiers e.modifiers).bind fun _ => ok _
  intro fault h
  obtain ⟨_, -, ⟨⟩⟩ := mapError_eq_error_iff.1 h

theorem newDraft : RefusesRightly d.newDraft := by
  intro fault h
  unfold Document.newDraft at h
  split at h
  · cases h
  · cases h
  · cases h
  · split at h
    · cases h
    · split at h <;> cases h

theorem addModifiers : RefusesRightly (d.addModifiers draft) := by
  unfold Document.addModifiers
  split
  · exact ok draft
  · exact (readModifiers d.modifiers).bind fun _ => checked fun _ h => nomatch h

theorem addTypeVariables : RefusesRightly (d.addTypeVariables draft) := by
  unfold Document.addTypeVariables
  split
  · exact ok draft
  · have hcheck : RefusesRightly ((draft.checkAllowed .addTypeVariables).mapError .fault) := by
      rintro fault h
      obtain ⟨_, hcheck, ⟨⟩⟩ := mapError_eq_error_iff.1 h
      obtain ⟨e, -, rfl⟩ := mapError_eq_error_iff.1 hcheck
      exact ⟨e, rfl⟩
    refine hcheck.bind fun _ => (readAll fun e _ => readTypeVariable e).bind fun _ => ?_
    exact checked fun _ h => nomatch h

theorem addParameters : RefusesRightly (d.addParameters draft) :=
  (readAll fun e _ => readParameter e).bind fun _ => checked fun _ h => nomatch h

theorem setReturns : RefusesRightly (d.setReturns draft) := by
  unfold Document.setReturns
  split
  · exact ok draft
  · exact (readType _).bind fun _ => checked fun _ h => nomatch h

theorem setFlags : RefusesRightly (d.setFlags draft) := by
  -- The last flag is checked on whatever draft the others have left.
  have hfinal (flagged : FunctionDraft) : RefusesRightly
      (if d.isAbstract then called (flagged.setAbstract true) else pure flagged) := by
    intro fault h
    unfold called FunctionDraft.setAbstract at h
    split at h
    · split at h
      · cases h
        exact ⟨_, rfl⟩
      · cases h
    · cases h
  unfold Document.setFlags
  dsimp only
  split
  · exact bind (checked fun _ h => nomatch h) hfinal
  · exact bind (ok _) hfinal

theorem addStatements : RefusesRightly (d.addStatements draft) := by
  refine each (fun draft s fault h => ?_) d.statements draft
  rw [addStatement_eq] at h
  obtain ⟨_, hrefused, ⟨⟩⟩ := mapError_eq_error_iff.1 h
  split at hrefused
  · cases hrefused
    exact ⟨_, rfl⟩
  · cases hrefused

theorem build : RefusesRightly d.build := by
  refine bind ?_ fun draft => ?_
  -- Documentation is added by a template of the replay's own, which cannot fail.
  · refine newDraft.bind fun _ => ?_
    rw [addDoc_eq]
    exact (ok _).bind fun _ => addModifiers.bind fun _ => addTypeVariables.bind fun _ =>
      addParameters.bind fun _ => setReturns.bind fun _ => setFlags.bind fun _ => addStatements
  · intro fault h
    obtain ⟨e, -, ⟨⟩⟩ := mapError_eq_error_iff.1 h
    exact ⟨e, rfl⟩

end RefusesRightly

end Document

end SwiftDecl
