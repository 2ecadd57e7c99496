import SwiftDecl.FunctionDecl.Draft
import SwiftDecl.Proofs.Code.Building

/-!
# What the calls on a draft do

One lemma for each call says when it is accepted and which draft comes out: every accepted call
changes one field and leaves the others. Only the call that goes on with the next branch of a
control flow does not have the form of the others; `nextControlFlow_cases` says what it does. The
proofs about drafts read the calls through these lemmas and do not open them again.

`Factory` lists the ways to start a draft; the drafts that can be reached are those that a run of
calls makes from there (`Factory.reach`).
-/

namespace SwiftDecl

/-! ## Checks -/

/-- As a fault or not, a check of the grammar passes for the same declarations. -/
@[simp] theorem ofGrammar_eq_ok_iff {α : Type} {r : Except GrammarError α} {a : α} :
    Fault.ofGrammar r = .ok a ↔ r = .ok a :=
  mapError_eq_ok_iff

/-- As a fault or not, a template is filled in the same way. -/
@[simp] theorem ofTemplate_eq_ok_iff {α : Type} {r : Except TemplateError α} {a : α} :
    Fault.ofTemplate r = .ok a ↔ r = .ok a :=
  mapError_eq_ok_iff

namespace FunctionKind

/-- An operation passes the check if no rule of the kind forbids it. -/
theorem checkAllowed_eq_ok_iff {kind : FunctionKind} {operation : Operation} {name : String} :
    kind.checkAllowed operation name = .ok () ↔ kind.forbids? operation = none := by
  unfold checkAllowed
  cases kind.forbids? operation <;> simp

/-- Parameters pass the check if there are none to add, or if the kind takes parameters and does
not get a second one where it takes one. -/
theorem checkParameterCount_eq_ok_iff {kind : FunctionKind} {name : String}
    {current added : Int} :
    kind.checkParameterCount name current added = .ok () ↔
      added = 0 ∨
        (kind.forbids? .addParameters = none ∧
          ¬ (kind.takesOneParameter = true ∧ 1 < current + added)) := by
  unfold checkParameterCount
  by_cases hzero : added = 0
  · simp [hzero, pure, Except.pure]
  · cases hforbids : kind.forbids? .addParameters with
    | some rule =>
      have hchecked : kind.checkAllowed .addParameters name = .error ⟨name, rule⟩ := by
        simp [checkAllowed, hforbids]
      simp [hzero, hchecked, bind, Except.bind]
    | none =>
      have hchecked : kind.checkAllowed .addParameters name = .ok () :=
        checkAllowed_eq_ok_iff.2 hforbids
      by_cases hmany : kind.takesOneParameter = true ∧ 1 < current + added
      · simp [hzero, hchecked, hmany, bind, Except.bind, throw, throwThe, MonadExceptOf.throw]
      · simp [hzero, hchecked, hmany, bind, Except.bind, pure, Except.pure]

end FunctionKind

namespace FunctionDraft

variable {d d' : FunctionDraft}

theorem checkAllowed_eq_ok_iff {operation : Operation} :
    d.checkAllowed operation = .ok () ↔ d.kind.forbids? operation = none := by
  unfold checkAllowed
  rw [ofGrammar_eq_ok_iff, FunctionKind.checkAllowed_eq_ok_iff]

theorem checkHasBody_eq_ok_iff : d.checkHasBody = .ok () ↔ d.isAbstract = false := by
  unfold checkHasBody
  cases d.isAbstract <;> simp

end FunctionDraft

/-- The source gives the block: a template is filled, a block is taken as it is. -/
def CodeSource.Gives : CodeSource → Code → Prop
  | .template format arguments, c => Template.instantiate format arguments = .ok c
  | .block code _, c => c = code

namespace FunctionDraft

variable {d d' : FunctionDraft}

/-! ## Accepted calls -/

/-- Documentation is accepted if its template can be filled, or if it is a block that comes
without arguments. -/
theorem addDoc_eq_ok_iff {source : CodeSource} :
    d.addDoc source = .ok d' ↔
      (∀ code arguments, source = .block code arguments → arguments = []) ∧
        ∃ added, source.Gives added ∧ d' = { d with doc := d.doc ++ added } := by
  cases source with
  | template format arguments =>
    simp only [addDoc, bind_eq_ok_iff, pure_eq_ok_iff, ofTemplate_eq_ok_iff, Code.add_eq_ok_iff,
      CodeSource.Gives]
    constructor
    · rintro ⟨_, ⟨added, h, rfl⟩, rfl⟩
      exact ⟨by simp, added, h, rfl⟩
    · rintro ⟨_, added, h, rfl⟩
      exact ⟨_, ⟨added, h, rfl⟩, rfl⟩
  | block code arguments =>
    cases arguments with
    | nil => simp [addDoc, CodeSource.Gives, eq_comm]
    | cons a as => simp [addDoc]

/-- A change that the kind can forbid is made exactly if the kind does not. -/
theorem allowed_eq_ok_iff {operation : Operation} {changed : FunctionDraft} :
    (do d.checkAllowed operation; return changed : Except Fault FunctionDraft) = .ok d' ↔
      d.kind.forbids? operation = none ∧ d' = changed := by
  simp only [bind_eq_ok_iff, pure_eq_ok_iff]
  constructor
  · rintro ⟨_, hallowed, rfl⟩
    exact ⟨checkAllowed_eq_ok_iff.1 hallowed, rfl⟩
  · rintro ⟨hallowed, rfl⟩
    exact ⟨(), checkAllowed_eq_ok_iff.2 hallowed, rfl⟩

theorem addModifiers_eq_ok_iff {modifiers : List Modifier} :
    d.addModifiers modifiers = .ok d' ↔
      d.kind.forbids? .addModifiers = none ∧
        d' = { d with modifiers := d.modifiers ∪ ModifierSet.ofList modifiers } :=
  allowed_eq_ok_iff

theorem addTypeVariables_eq_ok_iff {vs : List TypeVariable} :
    d.addTypeVariables vs = .ok d' ↔
      d.kind.forbids? .addTypeVariables = none ∧
        d' = { d with signature := d.signature.addTypeVariables vs } :=
  allowed_eq_ok_iff

theorem returns_eq_ok_iff {type : Option TypeName} :
    d.returns type = .ok d' ↔
      d.kind.forbids? .returns = none ∧
        d' = { d with signature := { d.signature with returns := type } } :=
  allowed_eq_ok_iff

theorem setFailable_eq_ok_iff {value : Bool} :
    d.setFailable value = .ok d' ↔
      d.kind.forbids? .failable = none ∧
        d' = { d with signature := { d.signature with isFailable := value } } :=
  allowed_eq_ok_iff

/-- The parameters that are there and those to be added fit the kind. -/
def TakesParameters (d : FunctionDraft) (added : Nat) : Prop :=
  added = 0 ∨
    (d.kind.forbids? .addParameters = none ∧
      ¬ (d.kind.takesOneParameter = true ∧ 1 < d.signature.parameters.length + added))

theorem addParameters_eq_ok_iff {ps : List Parameter} :
    d.addParameters ps = .ok d' ↔
      d.TakesParameters ps.length ∧ d' = { d with signature := d.signature.addParameters ps } := by
  have hcount : d.kind.checkParameterCount d.name d.signature.parameters.length ps.length = .ok () ↔
      d.TakesParameters ps.length := by
    rw [FunctionKind.checkParameterCount_eq_ok_iff, TakesParameters]
    norm_cast
  simp only [addParameters, bind_eq_ok_iff, pure_eq_ok_iff, ofGrammar_eq_ok_iff]
  constructor
  · rintro ⟨_, hallowed, rfl⟩
    exact ⟨hcount.1 hallowed, rfl⟩
  · rintro ⟨hallowed, rfl⟩
    exact ⟨(), hcount.2 hallowed, rfl⟩

/-- A parameter is accepted if its type is there and it is accepted on its own. -/
theorem addParameter_eq_ok_iff {source : ParameterSource} :
    d.addParameter source = .ok d' ↔
      ∃ p, source.toParameter = .ok p ∧ d.addParameters [p] = .ok d' := by
  simp only [addParameter, bind_eq_ok_iff]

theorem setAbstract_eq_ok_iff {value : Bool} :
    d.setAbstract value = .ok d' ↔
      (value = true → d.body.parts = []) ∧ d' = { d with isAbstract := value } := by
  unfold setAbstract
  cases value with
  | false => simp [eq_comm]
  | true =>
    cases hempty : d.body.isEmpty with
    | true => simp [Code.isEmpty_iff.1 hempty, eq_comm]
    | false =>
      have hparts : d.body.parts ≠ [] := by
        intro h
        rw [Code.isEmpty_iff.2 h] at hempty
        cases hempty
      simp [hparts]

theorem addLocalTypes_eq_ok_iff {types : List TypeDecl} :
    d.addLocalTypes types = .ok d' ↔
      d.isAbstract = false ∧ d' = { d with localTypes := d.localTypes ++ types } := by
  unfold addLocalTypes
  cases d.isAbstract <;> simp [eq_comm]

/-! ## Accepted calls on the body -/

/-- A body that a template fills is taken exactly if the function has one and the template can be
filled. -/
theorem filledBody_eq_ok_iff {filled : Except TemplateError Code} :
    (do d.checkHasBody; return { d with body := ← Fault.ofTemplate filled } :
        Except Fault FunctionDraft) = .ok d' ↔
      d.isAbstract = false ∧ ∃ body, filled = .ok body ∧ d' = { d with body } := by
  simp only [bind_eq_ok_iff, pure_eq_ok_iff, ofTemplate_eq_ok_iff]
  constructor
  · rintro ⟨_, hbody, body, hfilled, rfl⟩
    exact ⟨checkHasBody_eq_ok_iff.1 hbody, body, hfilled, rfl⟩
  · rintro ⟨hbody, body, hfilled, rfl⟩
    exact ⟨(), checkHasBody_eq_ok_iff.2 hbody, body, hfilled, rfl⟩

/-- Code is accepted if the function has a body and its template, if it is one, can be filled. A
block is accepted with any arguments. -/
theorem addCode_eq_ok_iff {source : CodeSource} :
    d.addCode source = .ok d' ↔
      d.isAbstract = false ∧
        ∃ added, source.Gives added ∧ d' = { d with body := d.body ++ added } := by
  cases source with
  | template format arguments =>
    refine Iff.trans filledBody_eq_ok_iff ?_
    simp only [Code.add_eq_ok_iff, CodeSource.Gives]
    constructor
    · rintro ⟨hhas, _, ⟨added, h, rfl⟩, rfl⟩
      exact ⟨hhas, added, h, rfl⟩
    · rintro ⟨hhas, added, h, rfl⟩
      exact ⟨hhas, _, ⟨added, h, rfl⟩, rfl⟩
  | block code arguments =>
    simp only [addCode, bind_eq_ok_iff, pure_eq_ok_iff, CodeSource.Gives]
    constructor
    · rintro ⟨_, hhas, rfl⟩
      exact ⟨checkHasBody_eq_ok_iff.1 hhas, code, rfl, rfl⟩
    · rintro ⟨hhas, added, rfl, rfl⟩
      exact ⟨(), checkHasBody_eq_ok_iff.2 hhas, rfl⟩

theorem addNamedCode_eq_ok_iff {format : String} {arguments : List (String × Argument)} :
    d.addNamedCode format arguments = .ok d' ↔
      d.isAbstract = false ∧
        ∃ body, d.body.addNamed format arguments = .ok body ∧ d' = { d with body } :=
  filledBody_eq_ok_iff

theorem addComment_eq_ok_iff {format : String} {arguments : List Argument} :
    d.addComment format arguments = .ok d' ↔
      d.isAbstract = false ∧
        ∃ body, d.body.add ("// " ++ format ++ "\n") arguments = .ok body ∧
          d' = { d with body } :=
  filledBody_eq_ok_iff

theorem addStatement_eq_ok_iff {format : String} {arguments : List Argument} :
    d.addStatement format arguments = .ok d' ↔
      d.isAbstract = false ∧
        ∃ body, d.body.addStatement format arguments = .ok body ∧ d' = { d with body } :=
  filledBody_eq_ok_iff

theorem beginControlFlow_eq_ok_iff {name condition : String} {arguments : List Argument} :
    d.beginControlFlow name condition arguments = .ok d' ↔
      d.isAbstract = false ∧
        ∃ body, d.body.beginControlFlow name condition arguments = .ok body ∧
          d' = { d with body } :=
  filledBody_eq_ok_iff

theorem endControlFlow_eq_ok_iff :
    d.endControlFlow = .ok d' ↔
      d.isAbstract = false ∧ d' = { d with body := d.body.endControlFlow } := by
  simp only [endControlFlow, bind_eq_ok_iff, pure_eq_ok_iff]
  constructor
  · rintro ⟨_, hhas, rfl⟩
    exact ⟨checkHasBody_eq_ok_iff.1 hhas, rfl⟩
  · rintro ⟨hhas, rfl⟩
    exact ⟨(), checkHasBody_eq_ok_iff.2 hhas, rfl⟩

/-- The next branch is refused outright in an abstract function; in any other the body goes on
as the block does, refused or not. -/
theorem nextControlFlow_cases (d : FunctionDraft) (name condition : String)
    (arguments : List Argument) :
    (d.isAbstract = true ∧ d.nextControlFlow name condition arguments =
      (d, some (.grammar ⟨d.name, .abstractWithCode⟩))) ∨
    (d.isAbstract = false ∧ d.nextControlFlow name condition arguments =
      ({ d with body := (d.body.nextControlFlow name condition arguments).1 },
        (d.body.nextControlFlow name condition arguments).2.map .template)) := by
  unfold nextControlFlow checkHasBody
  cases h : d.isAbstract with
  | true => simp
  | false => simp

/-! ## Calls and runs -/

/-- A refused attempt gives the draft back. -/
theorem attempt_refused {r : Except Fault FunctionDraft} {fault : Fault}
    (h : (d.attempt r).2 = some fault) : (d.attempt r).1 = d := by
  cases r with
  | ok d' => simp [attempt] at h
  | error fault => rfl

@[simp] theorem run_nil (d : FunctionDraft) : d.run [] = d := rfl

@[simp] theorem run_cons (d : FunctionDraft) (c : DraftCall) (cs : List DraftCall) :
    d.run (c :: cs) = (d.call c).1.run cs := rfl

/-- What every call of a run keeps holds after the run. -/
theorem run_induction {P : FunctionDraft → Prop} {calls : List DraftCall}
    (hstep : ∀ c ∈ calls, ∀ d, P d → P (d.call c).1) (h : P d) : P (d.run calls) := by
  induction calls generalizing d with
  | nil => exact h
  | cons c cs ih =>
    have hfirst : P (d.call c).1 := hstep c List.mem_cons_self d h
    exact ih (fun b hb => hstep b (List.mem_cons_of_mem c hb)) hfirst

/-- The faults of a run, call by call; an accepted call has none. -/
def outcomes (d : FunctionDraft) : List DraftCall → List (Option Fault)
  | [] => []
  | c :: cs => (d.call c).2 :: (d.call c).1.outcomes cs

end FunctionDraft

/-! ## Where drafts start -/

/-- The ways to start a draft. -/
inductive Factory where
  | function (name : String)
  | abstractFunction (name : String)
  | initializer
  | deinitializer
  | getter
  | setter
  | willSet
  | didSet
  | operator (symbol : String)

/-- The draft that is started. -/
def Factory.draft : Factory → FunctionDraft
  | function name => { name }
  | abstractFunction name => .newAbstract name
  | initializer => .initializer
  | deinitializer => .deinitializer
  | getter => .getter
  | setter => .setter
  | willSet => .willSet
  | didSet => .didSet
  | operator symbol => .operator symbol

/-- The name that is asked for. -/
def Factory.name : Factory → String
  | function name => name
  | abstractFunction name => name
  | initializer => "init"
  | deinitializer => "deinit"
  | getter => "get"
  | setter => "set"
  | willSet => "willSet"
  | didSet => "didSet"
  | operator symbol => FunctionKind.operatorMark ++ symbol

/-- The draft after a run of calls on a new one. -/
def Factory.reach (factory : Factory) (calls : List DraftCall) : FunctionDraft :=
  factory.draft.run calls

/-- A new draft has its name, perhaps the mark of an abstract function, and nothing else. -/
theorem Factory.draft_eq (factory : Factory) :
    factory.draft = { name := factory.name, isAbstract := factory.draft.isAbstract } := by
  cases factory <;> rfl

end SwiftDecl
