import SwiftDecl.Proofs.Document.Refusal

/-!
# Documents replayed on drafts

A document is replayed on a draft call by call, and the first call that is refused refuses the
document. Two conditions say beforehand whether that happens: the texts of the document can be read
(`Document.Readable`), and the document keeps to the grammar of the kind that its name selects
(`Document.Grammatical`). A document that meets both gives the declaration with its own fields
(`Document.Describes`), and no other.
-/

namespace SwiftDecl

/-- A draft is built as it stands, unless it is a setter with several parameters. -/
theorem FunctionDraft.build_eq_ok_iff {draft : FunctionDraft} {f : FunctionDecl} :
    draft.build = .ok f ↔
      ¬ (draft.kind = .setter ∧ 1 < draft.signature.parameters.length) ∧ f = draft.toFunction := by
  have hkind : ¬ draft.kind ≠ draft.toFunction.kind := fun hne => hne rfl
  rw [build, FunctionDecl.checked, if_neg hkind]
  by_cases hsetter : draft.kind = .setter ∧ 1 < draft.signature.parameters.length
  · rw [if_pos (by exact hsetter)]
    simp [hsetter]
  · rw [if_neg (by exact hsetter), Except.ok.injEq, eq_comm]
    exact (and_iff_right hsetter).symm

namespace Document

/-! ## The drafts of a document -/

section Replay

variable {d : Document} {f : FunctionDecl}

/-- The draft of a document with its texts read. -/
def drafted (d : Document) (vs : List TypeVariable) (ps : List Parameter)
    (returns : Option TypeName) : FunctionDraft where
  name := d.declaredName
  doc := d.docCode
  attributes := d.attributes.map Attribute.parse
  modifiers := ModifierSet.ofKeywords d.modifiers
  signature :=
    { typeVariables := vs.eraseDups, parameters := ps, returns, isThrowing := d.isThrowing
      isAsync := d.isAsync, isFailable := d.isFailable }
  body := statementsCode d.statements
  isAbstract := d.isAbstract

/-- The grammar of a document in the words of the checks. -/
theorem grammatical_iff :
    d.Grammatical ↔
      d.Named ∧
        (d.modifiers = [] ∨ d.declaredKind.forbids? .addModifiers = none) ∧
        (d.typeVariables = [] ∨ d.declaredKind.forbids? .addTypeVariables = none) ∧
        (d.parameters.length = 0 ∨
          (d.declaredKind.forbids? .addParameters = none ∧
            ¬ (d.declaredKind.takesOneParameter = true ∧ 1 < d.parameters.length))) ∧
        (d.returns = none ∨ d.declaredKind.forbids? .returns = none) ∧
        (d.isFailable = true → d.declaredKind.forbids? .failable = none) ∧
        (d.statements = [] ∨ d.isAbstract = false) := by
  rw [FunctionKind.addModifiers_allowed_iff, FunctionKind.addTypeVariables_allowed_iff,
    FunctionKind.addParameters_allowed_iff, FunctionKind.takesOneParameter_iff,
    FunctionKind.returns_allowed_iff, FunctionKind.failable_allowed_iff, List.length_eq_zero_iff]
  constructor
  · intro h
    refine ⟨h.toNamed, or_not_of_imp h.observer_modifiers, or_not_of_imp h.accessor_typeVariables,
      ?_, or_not_of_imp h.returns_none, h.failable_initializer, ?_⟩
    -- A getter has no parameters at all, so only those of the other kinds are counted.
    · by_cases hgetter : d.declaredKind = .getter
      · exact .inl (h.getter_parameters hgetter)
      · refine .inr ⟨hgetter, fun hmany => ?_⟩
        have hone := h.one_parameter hmany.1
        omega
    · cases habstract : d.isAbstract with
      | true => exact .inl (h.abstract_statements habstract)
      | false => exact .inr rfl
  · rintro ⟨hnamed, hmodifiers, hgeneric, hparameters, hreturns, hfailable, hstatements⟩
    refine
      { hnamed with
        observer_modifiers := imp_iff_or_not.2 hmodifiers
        accessor_typeVariables := imp_iff_or_not.2 hgeneric
        getter_parameters := ?_
        one_parameter := ?_
        returns_none := imp_iff_or_not.2 hreturns
        failable_initializer := hfailable
        abstract_statements := ?_ }
    · intro hgetter
      exact hparameters.resolve_right fun h => h.1 hgetter
    · -- At most one parameter is the same as not more than one.
      intro hkind
      rcases hparameters with hnone | ⟨-, hone⟩
      · simp [hnone]
      · exact Nat.not_lt.1 fun hmany => hone ⟨hkind, hmany⟩
    · intro habstract
      exact hstatements.resolve_right (by simp [habstract])

/-- The replay goes through exactly if the texts can be read and the document keeps to the
grammar. -/
theorem draft_eq_ok_iff {draft : FunctionDraft} :
    d.draft = .ok draft ↔
      d.Grammatical ∧ Modifier.AllKnown d.modifiers ∧
        (∀ e ∈ d.parameters, Modifier.AllKnown e.modifiers) ∧
        ∃ vs ps returns,
          List.Forall₂ (fun e v => TypeVariable.IsReadFrom v e) d.typeVariables vs ∧
          List.Forall₂ (fun e p => Parameter.IsReadFrom p e) d.parameters ps ∧
          Option.Rel (fun text t => TypeName.IsReadFrom t text) d.returns returns ∧
          draft = d.drafted vs ps returns := by
  -- The steps in order. Each reads the draft that the steps before it have left, so all conditions
  -- come out for a draft that starts from the name alone.
  have hkind : FunctionKind.ofName d.declaredName = d.declaredKind := rfl
  simp only [Document.draft, bind_eq_ok_iff, newDraft_eq_ok_iff, addDoc_eq, Except.ok.injEq,
    addModifiers_eq_ok_iff, addTypeVariables_eq_ok_iff, addParameters_eq_ok_iff,
    setReturns_eq_ok_iff, setFlags_eq_ok_iff, addStatements_eq_ok_iff,
    Signature.addTypeVariables_eq, FunctionDraft.TakesParameters, FunctionDraft.kind, hkind,
    and_assoc, exists_and_left, exists_eq_left, exists_eq_left', grammatical_iff,
    FunctionDraft.addAttributes]
  constructor
  · rintro ⟨hnamed, hknown, hmodifiers, hgeneric, _, ⟨vs, hvs, rfl⟩, hparameters, hcount,
      _, ⟨ps, hps, rfl⟩, hreturns, _, ⟨returns, htype, rfl⟩, hfailable, -, hstatements, rfl⟩
    -- The new draft has no parameters yet, and is not abstract before the flags are set.
    rw [List.length_nil, Nat.zero_add] at hcount
    rw [Bool.or_false] at hstatements
    refine ⟨hnamed, hmodifiers, hgeneric, hcount, hreturns, hfailable, hstatements, hknown,
      hparameters, vs, hvs, ps, hps, returns, htype, ?_⟩
    simp [drafted, Signature.addParameters, Signature.extended_eq]
  · rintro ⟨hnamed, hmodifiers, hgeneric, hcount, hreturns, hfailable, hstatements, hknown,
      hparameters, vs, hvs, ps, hps, returns, htype, rfl⟩
    refine ⟨hnamed, hknown, hmodifiers, hgeneric, _, ⟨vs, hvs, rfl⟩, hparameters, ?_,
      _, ⟨ps, hps, rfl⟩, hreturns, _, ⟨returns, htype, rfl⟩, hfailable, fun _ => rfl, ?_, ?_⟩
    · rwa [List.length_nil, Nat.zero_add]
    · rwa [Bool.or_false]
    · simp [drafted, Signature.addParameters, Signature.extended_eq]

/-! ## The declaration that a document describes -/

/-- The declaration says what the document says. -/
structure Describes (d : Document) (f : FunctionDecl) : Prop where
  name : f.name = d.declaredName
  doc : f.doc = d.docCode
  attributes : f.attributes = d.attributes.map Attribute.parse
  tags : f.tags = []
  modifiers : ∀ m, m ∈ f.modifiers ↔ m.keyword ∈ d.modifiers
  typeVariables :
    ∃ vs, List.Forall₂ (fun e v => TypeVariable.IsReadFrom v e) d.typeVariables vs ∧
      f.signature.typeVariables = vs.eraseDups
  parameters :
    List.Forall₂ (fun e p => Parameter.IsReadFrom p e) d.parameters f.signature.parameters
  returns : Option.Rel (fun text t => TypeName.IsReadFrom t text) d.returns f.signature.returns
  isThrowing : f.signature.isThrowing = d.isThrowing
  isAsync : f.signature.isAsync = d.isAsync
  isFailable : f.signature.isFailable = d.isFailable
  localTypes : f.localTypes = []
  body : f.body = if d.isAbstract then none else some (statementsCode d.statements)

/-- The declaration of a document is its draft as a function, for texts that are read somehow. -/
theorem describes_iff :
    d.Describes f ↔
      ∃ vs ps returns,
        List.Forall₂ (fun e v => TypeVariable.IsReadFrom v e) d.typeVariables vs ∧
        List.Forall₂ (fun e p => Parameter.IsReadFrom p e) d.parameters ps ∧
        Option.Rel (fun text t => TypeName.IsReadFrom t text) d.returns returns ∧
        f = (d.drafted vs ps returns).toFunction := by
  constructor
  · intro h
    obtain ⟨vs, hvs, htypeVariables⟩ := h.typeVariables
    refine ⟨vs, f.signature.parameters, f.signature.returns, hvs, h.parameters, h.returns, ?_⟩
    -- What is described by its members or its parts is put together first; the other fields of the
    -- declaration are given as they are.
    have hmodifiers : f.modifiers = ModifierSet.ofKeywords d.modifiers := by
      apply ModifierSet.ext
      intro m
      rw [h.modifiers, ModifierSet.mem_ofKeywords]
    have hsignature : f.signature =
        { typeVariables := vs.eraseDups, parameters := f.signature.parameters
          returns := f.signature.returns, isThrowing := d.isThrowing, isAsync := d.isAsync
          isFailable := d.isFailable } := by
      rw [← htypeVariables, ← h.isThrowing, ← h.isAsync, ← h.isFailable]
      cases f.signature
      rfl
    obtain ⟨hname, hdoc, hattributes, htags, -, -, -, -, -, -, -, hlocalTypes, hbody⟩ := h
    cases f
    simp only at hname hdoc hattributes htags hmodifiers hsignature hlocalTypes hbody
    simp only [FunctionDraft.toFunction, drafted, FunctionDecl.mk.injEq]
    exact ⟨hname, hdoc, hattributes, htags, hmodifiers, hsignature, hlocalTypes, hbody⟩
  · -- Conversely, each field of the draft is as it is described.
    rintro ⟨vs, ps, returns, hvs, hps, hreturns, rfl⟩
    exact
      { name := rfl
        doc := rfl
        attributes := rfl
        tags := rfl
        modifiers := fun m => ModifierSet.mem_ofKeywords
        typeVariables := ⟨vs, hvs, rfl⟩
        parameters := hps
        returns := hreturns
        isThrowing := rfl
        isAsync := rfl
        isFailable := rfl
        localTypes := rfl
        body := rfl }

/-- The texts of a document can be read exactly if they are read somehow. -/
theorem readable_iff :
    d.Readable ↔
      Modifier.AllKnown d.modifiers ∧ (∀ e ∈ d.parameters, Modifier.AllKnown e.modifiers) ∧
        ∃ vs ps returns,
          List.Forall₂ (fun e v => TypeVariable.IsReadFrom v e) d.typeVariables vs ∧
          List.Forall₂ (fun e p => Parameter.IsReadFrom p e) d.parameters ps ∧
          Option.Rel (fun text t => TypeName.IsReadFrom t text) d.returns returns := by
  -- Each list of texts can be read exactly if each of its texts can.
  have hbounds : (∃ vs, List.Forall₂ (fun e v => TypeVariable.IsReadFrom v e) d.typeVariables vs) ↔
      ∀ e ∈ d.typeVariables, ∀ text ∈ e.bounds, ∃ t : TypeName, t.IsReadFrom text := by
    simp only [exists_forall₂_iff, TypeVariableEntry.exists_isReadFrom_iff]
  have htypes : (∃ ps, List.Forall₂ (fun e p => Parameter.IsReadFrom p e) d.parameters ps) ↔
      ∀ e ∈ d.parameters, ∃ t : TypeName, t.IsReadFrom e.type := by
    simp only [exists_forall₂_iff, ParameterEntry.exists_isReadFrom_iff]
  have hreturns : (∃ returns,
      Option.Rel (fun text t => TypeName.IsReadFrom t text) d.returns returns) ↔
      ∀ text, d.returns = some text → ∃ t : TypeName, t.IsReadFrom text := by
    cases d.returns with
    | none => simpa using ⟨none, Option.Rel.none⟩
    | some text =>
      constructor
      · rintro ⟨_, ⟨ht⟩⟩ _ ⟨⟩
        exact ⟨_, ht⟩
      · intro h
        obtain ⟨t, ht⟩ := h text rfl
        exact ⟨some t, .some ht⟩
  constructor
  · intro h
    obtain ⟨vs, hvs⟩ := hbounds.2 h.bounds
    obtain ⟨ps, hps⟩ := htypes.2 h.parameter_types
    obtain ⟨returns, ht⟩ := hreturns.2 h.returns
    exact ⟨h.modifiers, h.parameter_modifiers, vs, ps, returns, hvs, hps, ht⟩
  · rintro ⟨hknown, hparameters, vs, ps, returns, hvs, hps, ht⟩
    exact
      { modifiers := hknown
        bounds := hbounds.1 ⟨vs, hvs⟩
        parameter_modifiers := hparameters
        parameter_types := htypes.1 ⟨ps, hps⟩
        returns := hreturns.1 ⟨returns, ht⟩ }

/-- A document gives a declaration if it can be read and keeps to the grammar, and then the one that
it describes. -/
theorem build_eq_ok_iff :
    d.build = .ok f ↔ (d.Readable ∧ d.Grammatical) ∧ d.Describes f := by
  -- The last check, on the declaration as a whole, asks for nothing that the grammar does not ask.
  have hsetter (hgrammatical : d.Grammatical) {vs ps returns}
      (hps : List.Forall₂ (fun e p => Parameter.IsReadFrom p e) d.parameters ps) :
      ¬ ((d.drafted vs ps returns).kind = .setter ∧
        1 < (d.drafted vs ps returns).signature.parameters.length) := by
    rintro ⟨hkind, hmany⟩
    have hone := hgrammatical.one_parameter (.inl hkind)
    rw [hps.length_eq] at hone
    exact absurd hone (Nat.not_le.2 hmany)
  simp only [build, bind_eq_ok_iff, mapError_eq_ok_iff, draft_eq_ok_iff,
    FunctionDraft.build_eq_ok_iff, readable_iff, describes_iff]
  constructor
  · rintro ⟨_, ⟨hgrammatical, hknown, hparameters, vs, ps, returns, hvs, hps, ht, rfl⟩, -, rfl⟩
    exact ⟨⟨⟨hknown, hparameters, vs, ps, returns, hvs, hps, ht⟩, hgrammatical⟩,
      vs, ps, returns, hvs, hps, ht, rfl⟩
  · rintro ⟨⟨⟨hknown, hparameters, -⟩, hgrammatical⟩, vs, ps, returns, hvs, hps, ht, rfl⟩
    exact ⟨_, ⟨hgrammatical, hknown, hparameters, vs, ps, returns, hvs, hps, ht, rfl⟩,
      hsetter hgrammatical hps, rfl⟩

/-- Under any label a document gives the declaration that it is built as. -/
theorem declaration_eq_ok_iff {label : String} :
    d.declaration label = .ok f ↔ (d.Readable ∧ d.Grammatical) ∧ d.Describes f := by
  rw [declaration, mapError_eq_ok_iff, build_eq_ok_iff]

/-- A readable document describes some declaration. -/
theorem exists_describes (h : d.Readable) : ∃ f, d.Describes f := by
  obtain ⟨-, -, vs, ps, returns, hvs, hps, ht⟩ := readable_iff.1 h
  exact ⟨_, describes_iff.2 ⟨vs, ps, returns, hvs, hps, ht, rfl⟩⟩

end Replay

/-! ## The replay is exact -/

/-- A document gives a declaration if its texts can be read and it keeps to the grammar of the kind
that its name selects. The declaration is then the one that the document describes. In all other
cases the document is refused under its label, for its name, for a text that cannot be read or for
a rule of the grammar. -/
theorem declaration_replay (d : Document) (label : String) :
    ((∃ f, d.declaration label = .ok f) ↔ d.Readable ∧ d.Grammatical) ∧
      (∀ f, d.declaration label = .ok f ↔ (d.Readable ∧ d.Grammatical) ∧ d.Describes f) ∧
      ∀ e, d.declaration label = .error e →
        ∃ problem, e = .refused label problem ∧
          (∀ fault, problem = .fault fault → ∃ rule, fault = .grammar rule) ∧
          e.message = "'" ++ label ++ "': " ++ problem.message := by
  refine ⟨?_, fun f => declaration_eq_ok_iff, ?_⟩
  · simp only [declaration_eq_ok_iff]
    constructor
    · rintro ⟨_, hgood, -⟩
      exact hgood
    · intro hgood
      obtain ⟨f, hf⟩ := exists_describes hgood.1
      exact ⟨f, hgood, hf⟩
  · intro e he
    obtain ⟨problem, hrefused, rfl⟩ := mapError_eq_error_iff.1 he
    refine ⟨problem, rfl, ?_, rfl⟩
    rintro fault rfl
    exact RefusesRightly.build fault hrefused

end Document

end SwiftDecl
