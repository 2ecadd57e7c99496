import SwiftDecl.Proofs.Document.Reading
import SwiftDecl.Proofs.Draft.Grammar

/-!
# Steps of a replayed document

A document is replayed on a draft step by step: its name, its documentation, its modifiers and so
on, each as a call on the draft. One lemma for each step says when it goes through and which draft
it leaves; the calls are not opened again after that.

What a document says does not depend on the replay. `Document.declaredName` is the name of its
declaration, `Document.Readable` says that its texts can be read, and `Document.Grammatical` that it
keeps to the grammar of the kind that its name selects.
-/

namespace SwiftDecl

/-- The kinds without a reserved name are those that need one. -/
theorem FunctionKind.reservedName?_eq_none_iff {kind : FunctionKind} :
    kind.reservedName? = none ↔ kind = .ordinary ∨ kind = .operator := by
  cases kind <;> decide

namespace Document

/-! ## What a document says -/

/-- The block that writes each text as it is, on a line of its own. -/
def statementsCode (statements : List String) : Code :=
  { parts := statements.flatMap fun _ => [.slot .literal, .text "\n"]
    arguments := statements.map .text }

/-- The name of the declaration: the reserved name of the stated kind, or the name that is given,
with the mark of operators for an operator. -/
def declaredName (d : Document) : String :=
  match d.kind.reservedName? with
  | some name => name
  | none =>
    (if d.kind = .operator then FunctionKind.operatorMark else "") ++ d.name.getD ""

/-- The kind of the declaration, which follows from its name. -/
def declaredKind (d : Document) : FunctionKind :=
  FunctionKind.ofName d.declaredName

/-- The documentation of the declaration: the text, with one line end at its end. -/
def docCode (d : Document) : Code :=
  match d.doc with
  | none => {}
  | some doc => if doc = "" then {} else statementsCode [dropFinalBreaks doc]

/-- A name is given exactly where the stated kind has none of its own. -/
structure Named (d : Document) : Prop where
  given : d.kind = .ordinary ∨ d.kind = .operator → ∃ name, d.name = some name ∧ name ≠ ""
  reserved : d.kind ≠ .ordinary → d.kind ≠ .operator → d.name = none

/-- Each text of the document can be read as what it is meant to be. -/
structure Readable (d : Document) : Prop where
  modifiers : Modifier.AllKnown d.modifiers
  bounds : ∀ e ∈ d.typeVariables, ∀ text ∈ e.bounds, ∃ t : TypeName, t.IsReadFrom text
  parameter_modifiers : ∀ e ∈ d.parameters, Modifier.AllKnown e.modifiers
  parameter_types : ∀ e ∈ d.parameters, ∃ t : TypeName, t.IsReadFrom e.type
  returns : ∀ text, d.returns = some text → ∃ t : TypeName, t.IsReadFrom text

/-- The document keeps to the grammar of the kind that its name selects. -/
structure Grammatical (d : Document) : Prop extends Named d where
  observer_modifiers : d.declaredKind = .willSet ∨ d.declaredKind = .didSet → d.modifiers = []
  accessor_typeVariables :
    d.declaredKind = .getter ∨ d.declaredKind = .setter → d.typeVariables = []
  getter_parameters : d.declaredKind = .getter → d.parameters = []
  one_parameter :
    d.declaredKind = .setter ∨ d.declaredKind = .willSet ∨ d.declaredKind = .didSet →
      d.parameters.length ≤ 1
  returns_none :
    d.declaredKind = .getter ∨ d.declaredKind = .setter ∨ d.declaredKind = .initializer →
      d.returns = none
  failable_initializer : d.isFailable = true → d.declaredKind = .initializer
  abstract_statements : d.isAbstract = true → d.statements = []

/-! ## The steps of the replay -/

section Steps

variable {d : Document} {draft draft' : FunctionDraft}

/-- The draft starts with its name, if there is one to start with. -/
theorem newDraft_eq_ok_iff :
    d.newDraft = .ok draft ↔ d.Named ∧ draft = { name := d.declaredName } := by
  unfold newDraft declaredName
  cases hreserved : d.kind.reservedName? with
  | some reserved =>
    -- The kind has a name of its own, so no name is to be given.
    have hkind : ¬ (d.kind = .ordinary ∨ d.kind = .operator) := by
      rw [← FunctionKind.reservedName?_eq_none_iff, hreserved]
      exact Option.some_ne_none reserved
    cases hname : d.name with
    | none =>
      have hnamed : d.Named := ⟨fun h => absurd h hkind, fun _ _ => hname⟩
      simp [hnamed, eq_comm]
    | some given =>
      have hnamed : ¬ d.Named := by
        intro h
        have hnone := h.reserved (fun hk => hkind (.inl hk)) fun hk => hkind (.inr hk)
        rw [hname] at hnone
        cases hnone
      simp [hnamed]
  | none =>
    -- An ordinary function or an operator needs a name that is not empty.
    have hkind := FunctionKind.reservedName?_eq_none_iff.1 hreserved
    cases hname : d.name with
    | none =>
      have hnamed : ¬ d.Named := by
        intro h
        obtain ⟨name, hsome, -⟩ := h.given hkind
        rw [hname] at hsome
        cases hsome
      simp [hnamed]
    | some given =>
      have hnamed : d.Named ↔ given ≠ "" := by
        constructor
        · intro h
          obtain ⟨name, hsome, hne⟩ := h.given hkind
          rw [hname] at hsome
          cases hsome
          exact hne
        · intro hne
          refine ⟨fun _ => ⟨given, hname, hne⟩, fun hordinary hoperator => ?_⟩
          exact absurd hkind (not_or.2 ⟨hordinary, hoperator⟩)
      -- What is left is the mark that an operator puts before its name.
      rw [hnamed]
      by_cases hempty : given = ""
      · simp [hempty]
      · by_cases hoperator : d.kind = .operator
        · simp [hempty, hoperator, FunctionDraft.operator, eq_comm]
        · simp [hempty, hoperator, eq_comm]

/-- The documentation is added as one line end after the text, whatever the text. -/
theorem addDoc_eq (d : Document) (draft : FunctionDraft) :
    d.addDoc draft = .ok { draft with doc := draft.doc ++ d.docCode } := by
  unfold addDoc docCode
  cases d.doc with
  | none => simp
  | some doc =>
    by_cases hempty : doc = ""
    · simp [hempty]
    · simp only [hempty, ↓reduceIte]
      have hgives : CodeSource.Gives (.template "%L\n" [.text (dropFinalBreaks doc)])
          (statementsCode [dropFinalBreaks doc]) := rfl
      rw [called, mapError_eq_ok_iff, FunctionDraft.addDoc_eq_ok_iff]
      exact ⟨by simp, _, hgives, rfl⟩

/-- Modifiers are added if their keywords are known, and the kind can have some or there are
none. -/
theorem addModifiers_eq_ok_iff :
    d.addModifiers draft = .ok draft' ↔
      Modifier.AllKnown d.modifiers ∧
        (d.modifiers = [] ∨ draft.kind.forbids? .addModifiers = none) ∧
        draft' = { draft with
          modifiers := draft.modifiers ∪ ModifierSet.ofKeywords d.modifiers } := by
  unfold addModifiers
  cases hgiven : d.modifiers with
  | nil => simp [pure_eq_ok_iff, Modifier.AllKnown]
  | cons keyword rest =>
    simp only [List.isEmpty_cons, Bool.false_eq_true, ↓reduceIte, bind_eq_ok_iff,
      readModifiers_eq_ok_iff, called, mapError_eq_ok_iff, FunctionDraft.addModifiers_eq_ok_iff,
      Modifier.allKnown_iff, reduceCtorEq, false_or]
    constructor
    · rintro ⟨ms, hms, hallowed, rfl⟩
      rw [ModifierSet.ofList_eq_ofKeywords, hms]
      exact ⟨⟨ms, hms⟩, hallowed, rfl⟩
    · rintro ⟨⟨ms, hms⟩, hallowed, rfl⟩
      rw [← hms, ← ModifierSet.ofList_eq_ofKeywords]
      exact ⟨ms, rfl, hallowed, rfl⟩

/-- Generic parameters are added if they can be read, and the kind can have some or there are
none. -/
theorem addTypeVariables_eq_ok_iff :
    d.addTypeVariables draft = .ok draft' ↔
      (d.typeVariables = [] ∨ draft.kind.forbids? .addTypeVariables = none) ∧
        ∃ vs, List.Forall₂ (fun e v => TypeVariable.IsReadFrom v e) d.typeVariables vs ∧
          draft' = { draft with signature := draft.signature.addTypeVariables vs } := by
  unfold addTypeVariables
  cases hgiven : d.typeVariables with
  | nil => simp [pure_eq_ok_iff, Signature.addTypeVariables]
  | cons e rest =>
    simp only [List.isEmpty_cons, Bool.false_eq_true, ↓reduceIte, bind_eq_ok_iff, mapM_eq_ok_iff,
      readTypeVariable_eq_ok_iff, called, mapError_eq_ok_iff,
      FunctionDraft.addTypeVariables_eq_ok_iff, reduceCtorEq, false_or]
    -- The kind is checked before the entries are read, and once more by the call.
    constructor
    · rintro ⟨_, hcheck, vs, hvs, hallowed, rfl⟩
      exact ⟨hallowed, vs, hvs, rfl⟩
    · rintro ⟨hallowed, vs, hvs, rfl⟩
      exact ⟨(), FunctionDraft.checkAllowed_eq_ok_iff.2 hallowed, vs, hvs, hallowed, rfl⟩

/-- Parameters are added if they can be read and fit the kind. -/
theorem addParameters_eq_ok_iff :
    d.addParameters draft = .ok draft' ↔
      (∀ e ∈ d.parameters, Modifier.AllKnown e.modifiers) ∧
        draft.TakesParameters d.parameters.length ∧
        ∃ ps, List.Forall₂ (fun e p => Parameter.IsReadFrom p e) d.parameters ps ∧
          draft' = { draft with signature := draft.signature.addParameters ps } := by
  simp only [addParameters, bind_eq_ok_iff, called, mapError_eq_ok_iff, mapM_eq_ok_iff,
    readParameter_eq_ok_iff, List.forall₂_and_left, FunctionDraft.addParameters_eq_ok_iff]
  -- The call counts the parameters that were read, which are as many as the entries.
  constructor
  · rintro ⟨ps, ⟨hknown, hps⟩, htakes, rfl⟩
    rw [← hps.length_eq] at htakes
    exact ⟨hknown, htakes, ps, hps, rfl⟩
  · rintro ⟨hknown, htakes, ps, hps, rfl⟩
    rw [hps.length_eq] at htakes
    exact ⟨ps, ⟨hknown, hps⟩, htakes, rfl⟩

/-- The returned type is set if it can be read and the kind can return one, or if there is none. -/
theorem setReturns_eq_ok_iff :
    d.setReturns draft = .ok draft' ↔
      (d.returns = none ∨ draft.kind.forbids? .returns = none) ∧
        ∃ returns, Option.Rel (fun text t => TypeName.IsReadFrom t text) d.returns returns ∧
          draft' = { draft with
            signature := { draft.signature with
              returns := returns.or draft.signature.returns } } := by
  unfold setReturns
  cases hgiven : d.returns with
  | none =>
    -- Without a type the draft is left as it is, also where it has a type already.
    have hsame : ({ draft.signature with
        returns := (none : Option TypeName).or draft.signature.returns } : Signature) =
        draft.signature := by
      rw [Option.none_or]
      cases draft.signature
      rfl
    rw [pure_eq_ok_iff]
    constructor
    · rintro rfl
      exact ⟨.inl rfl, none, .none, by rw [hsame]⟩
    · rintro ⟨-, _, ⟨⟩, rfl⟩
      rw [hsame]
  | some text =>
    simp only [bind_eq_ok_iff, readType_eq_ok_iff, called, mapError_eq_ok_iff,
      FunctionDraft.returns_eq_ok_iff, reduceCtorEq, false_or]
    constructor
    · -- The text is read first, and the kind is asked after it.
      rintro ⟨t, ht, hallowed, rfl⟩
      exact ⟨hallowed, some t, .some ht, rfl⟩
    · rintro ⟨hallowed, _, ⟨ht⟩, rfl⟩
      exact ⟨_, ht, hallowed, rfl⟩

/-- The flags are set if the kind can have them; an abstract declaration has no code. -/
theorem setFlags_eq_ok_iff :
    d.setFlags draft = .ok draft' ↔
      (d.isFailable = true → draft.kind.forbids? .failable = none) ∧
        (d.isAbstract = true → draft.body.parts = []) ∧
        draft' = { draft with
          signature := { draft.signature with
            isThrowing := d.isThrowing || draft.signature.isThrowing
            isAsync := d.isAsync || draft.signature.isAsync
            isFailable := d.isFailable || draft.signature.isFailable }
          isAbstract := d.isAbstract || draft.isAbstract } := by
  obtain ⟨name, doc, attributes, tags, modifiers, signature, localTypes, body, isAbstract⟩ := draft
  obtain ⟨typeVariables, parameters, returns, throwing, async, failable⟩ := signature
  unfold setFlags
  -- The first two flags are set without a check.
  cases d.isThrowing <;> cases d.isAsync <;> cases d.isFailable <;> cases d.isAbstract <;>
    simp [bind_eq_ok_iff, pure_eq_ok_iff, called, FunctionDraft.setFailable_eq_ok_iff,
      FunctionDraft.setAbstract_eq_ok_iff, FunctionDraft.setThrowing, FunctionDraft.setAsync,
      FunctionDraft.kind]

/-- A statement is taken as it is, and the line ends after it. An abstract declaration takes
none. -/
theorem addStatement_eq (draft : FunctionDraft) (s : String) :
    draft.addStatement "%L" [.text s] =
      if draft.isAbstract then .error (.grammar ⟨draft.name, .abstractWithCode⟩)
      else .ok { draft with body := draft.body ++ statementsCode [s] } := by
  unfold FunctionDraft.addStatement FunctionDraft.checkHasBody
  cases draft.isAbstract with
  | true => rfl
  | false => rfl

/-- Statements that are taken one by one stand one after the other. -/
theorem foldlM_addStatement_eq (h : draft.isAbstract = false) (statements : List String) :
    statements.foldlM (fun draft s => called (draft.addStatement "%L" [.text s])) draft =
      .ok { draft with body := draft.body ++ statementsCode statements } := by
  induction statements generalizing draft with
  | nil =>
    have hnone : statementsCode [] = {} := rfl
    rw [hnone, Code.append_empty]
    rfl
  | cons s rest ih =>
    have hfirst : statementsCode (s :: rest) = statementsCode [s] ++ statementsCode rest := rfl
    rw [List.foldlM_cons, addStatement_eq, if_neg (by simp [h]), hfirst, ← Code.append_assoc]
    exact ih h

/-- Statements are added if the declaration has a body, or if there are none. -/
theorem addStatements_eq_ok_iff :
    d.addStatements draft = .ok draft' ↔
      (d.statements = [] ∨ draft.isAbstract = false) ∧
        draft' = { draft with body := draft.body ++ statementsCode d.statements } := by
  unfold addStatements
  by_cases habstract : draft.isAbstract = true
  · cases d.statements with
    | nil =>
      have hnone : statementsCode [] = {} := rfl
      rw [hnone, Code.append_empty, List.foldlM_nil, pure_eq_ok_iff]
      constructor
      · rintro rfl
        exact ⟨.inl rfl, rfl⟩
      · rintro ⟨-, rfl⟩
        rfl
    | cons s rest =>
      -- The first statement is refused, and the rest is not looked at.
      simp [addStatement_eq, habstract, called, bind_eq_ok_iff, Except.mapError]
  · have hbody : draft.isAbstract = false := Bool.eq_false_iff.2 habstract
    rw [foldlM_addStatement_eq hbody, Except.ok.injEq]
    exact eq_comm.trans (and_iff_right (Or.inr hbody)).symm

end Steps

end Document

end SwiftDecl
