import SwiftDecl.Proofs.Draft.Changes
import SwiftDecl.Proofs.Signature

/-!
# The grammar of drafts

A kind of declaration may use a part of the grammar only. `Grammatical` says which part for each
kind, without the table that the checks read, and adds what holds of every kind. New drafts are
grammatical, each change keeps them so, and so is every draft that a run reaches
(`grammatical_of_reach`). It follows that a draft can always be built.
-/

namespace SwiftDecl

/-! ## The table of the checks

The checks read one table; these lemmas say for which kinds each operation passes. -/

namespace FunctionKind

theorem addModifiers_allowed_iff {kind : FunctionKind} :
    kind.forbids? .addModifiers = none ↔ ¬ (kind = .willSet ∨ kind = .didSet) := by
  cases kind <;> decide

theorem addTypeVariables_allowed_iff {kind : FunctionKind} :
    kind.forbids? .addTypeVariables = none ↔ ¬ (kind = .getter ∨ kind = .setter) := by
  cases kind <;> decide

theorem returns_allowed_iff {kind : FunctionKind} :
    kind.forbids? .returns = none ↔
      ¬ (kind = .getter ∨ kind = .setter ∨ kind = .initializer) := by
  cases kind <;> decide

theorem addParameters_allowed_iff {kind : FunctionKind} :
    kind.forbids? .addParameters = none ↔ kind ≠ .getter := by
  cases kind <;> decide

theorem failable_allowed_iff {kind : FunctionKind} :
    kind.forbids? .failable = none ↔ kind = .initializer := by
  cases kind <;> decide

theorem takesOneParameter_iff {kind : FunctionKind} :
    kind.takesOneParameter = true ↔ kind = .setter ∨ kind = .willSet ∨ kind = .didSet := by
  cases kind <;> decide

end FunctionKind

namespace FunctionDraft

/-- The draft uses only the part of the grammar that its kind may use. -/
structure Grammatical (d : FunctionDraft) : Prop where
  observer_modifiers : d.kind = .willSet ∨ d.kind = .didSet → d.modifiers = {}
  accessor_typeVariables :
    d.kind = .getter ∨ d.kind = .setter → d.signature.typeVariables = []
  returns_none :
    d.kind = .getter ∨ d.kind = .setter ∨ d.kind = .initializer → d.signature.returns = none
  getter_parameters : d.kind = .getter → d.signature.parameters = []
  one_parameter :
    d.kind = .setter ∨ d.kind = .willSet ∨ d.kind = .didSet →
      d.signature.parameters.length ≤ 1
  failable_initializer : d.signature.isFailable = true → d.kind = .initializer
  typeVariables_nodup : d.signature.typeVariables.Nodup
  abstract_body : d.isAbstract = true → d.body.parts = []

variable {d d' : FunctionDraft}

/-! ## Preservation -/

/-- A new draft has nothing that its kind could forbid. -/
theorem grammatical_new (name : String) (isAbstract : Bool) :
    Grammatical { name, isAbstract } where
  observer_modifiers := fun _ => rfl
  accessor_typeVariables := fun _ => rfl
  returns_none := fun _ => rfl
  getter_parameters := fun _ => rfl
  one_parameter := fun _ => Nat.zero_le 1
  failable_initializer := fun h => by cases h
  typeVariables_nodup := List.nodup_nil
  abstract_body := fun _ => rfl

/-- More generic parameters come only to kinds that may have some. -/
theorem Grammatical.addTypeVariables (h : d.Grammatical)
    (hallowed : d.kind.forbids? .addTypeVariables = none) (vs : List TypeVariable) :
    Grammatical { d with signature := d.signature.addTypeVariables vs } := by
  rw [Signature.addTypeVariables_eq]
  refine { h with accessor_typeVariables := ?_, typeVariables_nodup := ?_ }
  · intro hkind
    exact absurd hkind (FunctionKind.addTypeVariables_allowed_iff.1 hallowed)
  · exact Signature.nodup_extended h.typeVariables_nodup

/-- More parameters come only to kinds that take them, and where one is the most they are none or
the first. -/
theorem Grammatical.addParameters (h : d.Grammatical) {ps : List Parameter}
    (htakes : d.TakesParameters ps.length) :
    Grammatical { d with signature := d.signature.addParameters ps } := by
  rcases htakes with hnone | ⟨hallowed, hcount⟩
  · have hempty : ps = [] := List.length_eq_zero_iff.1 hnone
    subst hempty
    refine { h with getter_parameters := ?_, one_parameter := ?_ }
    · intro hkind
      simpa [Signature.addParameters] using h.getter_parameters hkind
    · intro hkind
      simpa [Signature.addParameters] using h.one_parameter hkind
  · refine { h with getter_parameters := ?_, one_parameter := ?_ }
    · intro hkind
      exact absurd hkind (FunctionKind.addParameters_allowed_iff.1 hallowed)
    · intro hkind
      have hone : d.kind.takesOneParameter = true := FunctionKind.takesOneParameter_iff.2 hkind
      have hlength : ¬ 1 < d.signature.parameters.length + ps.length :=
        fun hmany => hcount ⟨hone, hmany⟩
      simp only [Signature.addParameters, List.length_append]
      omega

/-- Each change keeps a draft grammatical. -/
theorem Grammatical.change (h : d.Grammatical) {added : Code} (hchange : Change d added d') :
    d'.Grammatical := by
  cases hchange with
  | doc => exact { h with }
  | attributes attributes => exact { h with }
  | tags tags => exact { h with }
  | modifiers hallowed modifiers =>
    refine { h with observer_modifiers := ?_ }
    -- Observers refuse modifiers, so the change is not one of theirs.
    intro hkind
    exact absurd hkind (FunctionKind.addModifiers_allowed_iff.1 hallowed)
  | typeVariables hallowed vs => exact h.addTypeVariables hallowed vs
  | returns hallowed type =>
    refine { h with returns_none := ?_ }
    intro hkind
    exact absurd hkind (FunctionKind.returns_allowed_iff.1 hallowed)
  | parameters htakes => exact h.addParameters htakes
  | isAbstract hempty => exact { h with abstract_body := hempty }
  | isFailable hallowed value =>
    refine { h with failable_initializer := ?_ }
    intro _
    exact FunctionKind.failable_allowed_iff.1 hallowed
  | isThrowing value => exact { h with }
  | isAsync value => exact { h with }
  | localTypes hbody types => exact { h with }
  | body hbody =>
    -- Only a function that has a body gets code, so nothing is said of this draft.
    refine { h with abstract_body := ?_ }
    intro habstract
    rw [hbody] at habstract
    cases habstract

/-- Each change keeps the name. -/
theorem Change.name_eq {added : Code} (hchange : Change d added d') : d'.name = d.name := by
  cases hchange <;> rfl

/-- Each change that appends an aligned block keeps the documentation and the body aligned. -/
theorem Change.aligned {added : Code} (hchange : Change d added d') (hadded : added.Aligned)
    (h : d.doc.Aligned ∧ d.body.Aligned) : d'.doc.Aligned ∧ d'.body.Aligned := by
  cases hchange with
  | doc => exact ⟨h.1.append hadded, h.2⟩
  | body => exact ⟨h.1, h.2.append hadded⟩
  | _ => exact h

/-! ## Drafts that are reached -/

/-- A reached draft has the name that was asked for. -/
theorem reach_name (factory : Factory) (calls : List DraftCall) :
    (factory.reach calls).name = factory.name := by
  refine run_induction_on_changes (P := fun d => d.name = factory.name) ?_ ?_
  · intro d added d' hchange _ h
    rw [hchange.name_eq, h]
  · rw [factory.draft_eq]

/-- A reached draft is grammatical, whatever blocks the calls brought in. -/
theorem grammatical_of_reach (factory : Factory) (calls : List DraftCall) :
    (factory.reach calls).Grammatical := by
  refine run_induction_on_changes (fun d added d' hchange _ h => h.change hchange) ?_
  rw [factory.draft_eq]
  exact grammatical_new factory.name factory.draft.isAbstract

/-- The documentation and the body of a reached draft are aligned if the blocks that the calls
brought in are built. -/
theorem aligned_of_reach (factory : Factory) (calls : List DraftCall)
    (hbuilt : ∀ c ∈ calls, c.BlocksBuilt) :
    (factory.reach calls).doc.Aligned ∧ (factory.reach calls).body.Aligned := by
  refine run_induction_on_changes (P := fun d => d.doc.Aligned ∧ d.body.Aligned) ?_ ?_
  · intro d added d' hchange haligned h
    exact hchange.aligned (haligned hbuilt) h
  · rw [factory.draft_eq]
    exact ⟨Code.aligned_empty, Code.aligned_empty⟩

/-- A grammatical draft can be built, and the function is the draft as it stands. -/
theorem Grammatical.build_eq (h : d.Grammatical) : d.build = .ok d.toFunction := by
  have hkind : ¬ d.kind ≠ d.toFunction.kind := fun hne => hne rfl
  have hsetter :
      ¬ (d.toFunction.kind = .setter ∧ 1 < d.toFunction.signature.parameters.length) := by
    rintro ⟨hset, hmany⟩
    have hone : d.signature.parameters.length ≤ 1 := h.one_parameter (.inl hset)
    have htwo : 1 < d.signature.parameters.length := hmany
    omega
  rw [build, FunctionDecl.checked, if_neg hkind, if_neg hsetter]

/-- Every run of calls that brings in built blocks only, refused or not, ends in a draft of the
name and kind that was asked for. The draft keeps to the grammar of its kind, its documentation
and its body have one argument for each slot, and it can be built. -/
theorem reach_grammatical (factory : Factory) (calls : List DraftCall)
    (hbuilt : ∀ c ∈ calls, c.BlocksBuilt) :
    (factory.reach calls).name = factory.name ∧
      (factory.reach calls).kind = FunctionKind.ofName factory.name ∧
      (factory.reach calls).Grammatical ∧
      (factory.reach calls).doc.Aligned ∧ (factory.reach calls).body.Aligned ∧
      (factory.reach calls).build = .ok (factory.reach calls).toFunction := by
  have hname := reach_name factory calls
  have hgrammatical := grammatical_of_reach factory calls
  obtain ⟨hdoc, hbody⟩ := aligned_of_reach factory calls hbuilt
  refine ⟨hname, ?_, hgrammatical, hdoc, hbody, hgrammatical.build_eq⟩
  rw [kind, hname]

/-- A setter that is made abstract and not again, with a second parameter and a statement refused
on the way and a block of code at the end. -/
theorem reach_grammatical_setter :
    let block := Code.plain "store()\n"
    let calls : List DraftCall := [
      .addParameter (.parts "value" (some .int) [] none),
      .addParameters [{ name := "other", type := .int }],
      .setAbstract true,
      .addStatement "store()" [],
      .setAbstract false,
      .addCode (.block block [])]
    Factory.setter.draft.outcomes calls =
        [none, some (.grammar ⟨"set", .oneParameter⟩), none,
          some (.grammar ⟨"set", .abstractWithCode⟩), none, none] ∧
      (∀ c ∈ calls, c.BlocksBuilt) ∧ (Factory.setter.reach calls).Grammatical ∧
      (Factory.setter.reach calls).body.Aligned := by
  intro block calls
  have hbuilt : ∀ c ∈ calls, c.BlocksBuilt := by
    intro c hc
    simp only [calls, List.mem_cons, List.not_mem_nil, or_false] at hc
    rcases hc with rfl | rfl | rfl | rfl | rfl | rfl <;> try trivial
    exact Code.Built.plain "store()\n"
  obtain ⟨_, _, hgrammatical, _, hbody, _⟩ := reach_grammatical .setter calls hbuilt
  exact ⟨rfl, hbuilt, hgrammatical, hbody⟩

end FunctionDraft

end SwiftDecl
