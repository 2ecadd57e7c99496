import SwiftDecl.Proofs.Draft.Calls
import SwiftDecl.Proofs.Modifier
import SwiftDecl.Proofs.Signature

/-!
# Calls on different parts of a draft

A draft falls into eleven parts, and each call belongs to one of them: it looks at the name and at
its own part, and changes nothing else. `FunctionDraft.only` forgets all parts but one. A run with
all parts but one forgotten is a run of the calls on that part, with the same outcomes (`only_run`).
What a run does is therefore settled by the order of the calls on each part, and the calls on
different parts can be made in any order (`run_reordered`).
-/

namespace SwiftDecl

/-- The parts of a draft that calls work on. The types that are local to the body belong to it, and
so does whether there is a body. -/
inductive DraftPart where
  | doc
  | attributes
  | tags
  | modifiers
  | typeVariables
  | parameters
  | returns
  | failable
  | throwing
  | async
  | body
deriving DecidableEq, Repr

/-- The part that a call works on. -/
def DraftCall.part : DraftCall → DraftPart
  | addDoc _ => .doc
  | addAttributes _ => .attributes
  | tag _ _ => .tags
  | addModifiers _ => .modifiers
  | addTypeVariables _ => .typeVariables
  | returns _ => .returns
  | addParameter _ => .parameters
  | addParameters _ => .parameters
  | setFailable _ => .failable
  | setThrowing _ => .throwing
  | setAsync _ => .async
  | setAbstract _ => .body
  | addLocalTypes _ => .body
  | addCode _ => .body
  | addNamedCode _ _ => .body
  | addComment _ _ => .body
  | addStatement _ _ => .body
  | beginControlFlow _ _ _ => .body
  | nextControlFlow _ _ _ => .body
  | endControlFlow => .body

/-- The calls of a sequence that work on a part, in their order. -/
def DraftPart.callsIn (p : DraftPart) (calls : List DraftCall) : List DraftCall :=
  calls.filter fun c => c.part = p

namespace FunctionDraft

variable {d d' : FunctionDraft}

/-- The draft with all its parts forgotten but one. -/
def only (d : FunctionDraft) : DraftPart → FunctionDraft
  | .doc => { name := d.name, doc := d.doc }
  | .attributes => { name := d.name, attributes := d.attributes }
  | .tags => { name := d.name, tags := d.tags }
  | .modifiers => { name := d.name, modifiers := d.modifiers }
  | .typeVariables =>
    { name := d.name, signature := { typeVariables := d.signature.typeVariables } }
  | .parameters => { name := d.name, signature := { parameters := d.signature.parameters } }
  | .returns => { name := d.name, signature := { returns := d.signature.returns } }
  | .failable => { name := d.name, signature := { isFailable := d.signature.isFailable } }
  | .throwing => { name := d.name, signature := { isThrowing := d.signature.isThrowing } }
  | .async => { name := d.name, signature := { isAsync := d.signature.isAsync } }
  | .body =>
    { name := d.name, body := d.body, isAbstract := d.isAbstract, localTypes := d.localTypes }

@[simp] theorem only_name (d : FunctionDraft) (p : DraftPart) : (d.only p).name = d.name := by
  cases p <;> rfl

/-- A draft is nothing but its parts. -/
theorem eq_of_only_eq (h : ∀ p, d.only p = d'.only p) : d = d' := by
  have hname := congrArg name (h .doc)
  have hdoc := congrArg doc (h .doc)
  have hattributes := congrArg attributes (h .attributes)
  have htags := congrArg tags (h .tags)
  have hmodifiers := congrArg modifiers (h .modifiers)
  have htypeVariables := congrArg (fun d => d.signature.typeVariables) (h .typeVariables)
  have hparameters := congrArg (fun d => d.signature.parameters) (h .parameters)
  have hreturns := congrArg (fun d => d.signature.returns) (h .returns)
  have hfailable := congrArg (fun d => d.signature.isFailable) (h .failable)
  have hthrowing := congrArg (fun d => d.signature.isThrowing) (h .throwing)
  have hasync := congrArg (fun d => d.signature.isAsync) (h .async)
  have hbody := congrArg body (h .body)
  have habstract := congrArg isAbstract (h .body)
  have hlocalTypes := congrArg localTypes (h .body)
  -- Every field is in a part, so all fields agree.
  obtain ⟨_, _, _, _, _, ⟨_, _, _, _, _, _⟩, _, _, _⟩ := d
  obtain ⟨_, _, _, _, _, ⟨_, _, _, _, _, _⟩, _, _, _⟩ := d'
  simp only [only] at *
  subst_vars
  rfl

/-! ## A call looks at its own part -/

/-- An attempt on one part, once the other parts are forgotten, is the attempt itself. -/
theorem attempt_only {p : DraftPart} {r s : Except Fault FunctionDraft}
    (h : s = r.map fun d' => d'.only p) :
    (d.only p).attempt s = ((d.attempt r).1.only p, (d.attempt r).2) := by
  subst h
  cases r <;> rfl

/-- A change that the kind can forbid is forbidden or made alike if the other parts are
forgotten. -/
theorem allowed_only (p : DraftPart) (operation : Operation) (changed : FunctionDraft) :
    (do (d.only p).checkAllowed operation; return changed.only p : Except Fault FunctionDraft) =
      (do d.checkAllowed operation; return changed : Except Fault FunctionDraft).map
        fun d' => d'.only p := by
  have hsame : (d.only p).checkAllowed operation = d.checkAllowed operation := by
    simp [checkAllowed, kind]
  rw [hsame]
  cases d.checkAllowed operation <;> rfl

/-- Whether there is a body is known if the other parts are forgotten. -/
theorem checkHasBody_only : (d.only .body).checkHasBody = d.checkHasBody := rfl

/-- A body is changed alike if the other parts are forgotten. -/
theorem changedBody_only (body : Code) :
    (do (d.only .body).checkHasBody
        return { d.only .body with body } : Except Fault FunctionDraft) =
      (do d.checkHasBody; return { d with body } : Except Fault FunctionDraft).map
        fun d' => d'.only .body := by
  rw [checkHasBody_only]
  cases d.checkHasBody <;> rfl

/-- A body is filled alike if the other parts are forgotten. -/
theorem filledBody_only (filled : Except TemplateError Code) :
    (do (d.only .body).checkHasBody
        return { d.only .body with body := ← Fault.ofTemplate filled } :
      Except Fault FunctionDraft) =
      (do d.checkHasBody
          return { d with body := ← Fault.ofTemplate filled } :
        Except Fault FunctionDraft).map fun d' => d'.only .body := by
  rw [checkHasBody_only]
  cases d.checkHasBody with
  | error fault => rfl
  | ok _ => cases filled <;> rfl

theorem addDoc_only (source : CodeSource) :
    (d.only .doc).addDoc source = (d.addDoc source).map fun d' => d'.only .doc := by
  cases source with
  | template format arguments =>
    have hsame : (d.only .doc).doc = d.doc := rfl
    rw [addDoc, addDoc, hsame]
    cases d.doc.add format arguments <;> rfl
  | block code arguments => cases arguments <;> rfl

theorem addParameters_only (ps : List Parameter) :
    (d.only .parameters).addParameters ps =
      (d.addParameters ps).map fun d' => d'.only .parameters := by
  have hcount : (d.only .parameters).kind.checkParameterCount (d.only .parameters).name
      (d.only .parameters).signature.parameters.length ps.length =
        d.kind.checkParameterCount d.name d.signature.parameters.length ps.length := rfl
  rw [addParameters, addParameters, hcount]
  cases d.kind.checkParameterCount d.name d.signature.parameters.length ps.length <;> rfl

theorem addParameter_only (source : ParameterSource) :
    (d.only .parameters).addParameter source =
      (d.addParameter source).map fun d' => d'.only .parameters := by
  unfold addParameter
  cases source.toParameter with
  | error fault => rfl
  | ok p => exact addParameters_only [p]

theorem setAbstract_only (value : Bool) :
    (d.only .body).setAbstract value = (d.setAbstract value).map fun d' => d'.only .body := by
  have hbody : (d.only .body).body = d.body := rfl
  unfold setAbstract
  rw [hbody]
  cases value && !d.body.isEmpty <;> rfl

theorem addLocalTypes_only (types : List TypeDecl) :
    (d.only .body).addLocalTypes types = (d.addLocalTypes types).map fun d' => d'.only .body := by
  have habstract : (d.only .body).isAbstract = d.isAbstract := rfl
  unfold addLocalTypes
  rw [habstract]
  cases d.isAbstract <;> rfl

theorem addCode_only (source : CodeSource) :
    (d.only .body).addCode source = (d.addCode source).map fun d' => d'.only .body := by
  cases source with
  | template format arguments => exact filledBody_only (d.body.add format arguments)
  | block code arguments => exact changedBody_only (d.body ++ code)

theorem endControlFlow_only :
    (d.only .body).endControlFlow = d.endControlFlow.map fun d' => d'.only .body :=
  changedBody_only d.body.endControlFlow

theorem nextControlFlow_only (name condition : String) (arguments : List Argument) :
    (d.only .body).nextControlFlow name condition arguments =
      ((d.nextControlFlow name condition arguments).1.only .body,
        (d.nextControlFlow name condition arguments).2) := by
  have hbody : (d.only .body).body = d.body := rfl
  unfold nextControlFlow
  rw [checkHasBody_only, hbody]
  cases d.checkHasBody with
  | error fault => rfl
  | ok _ =>
    cases d.body.nextControlFlow name condition arguments
    rfl

theorem addTypeVariables_only (vs : List TypeVariable) :
    (d.only .typeVariables).addTypeVariables vs =
      (d.addTypeVariables vs).map fun d' => d'.only .typeVariables := by
  unfold addTypeVariables
  rw [Signature.addTypeVariables_eq, Signature.addTypeVariables_eq]
  exact allowed_only .typeVariables .addTypeVariables
    { d with signature :=
        { d.signature with typeVariables := Signature.extended d.signature.typeVariables vs } }

/-- A call comes out the same if all parts but its own are forgotten. -/
theorem call_only (d : FunctionDraft) (c : DraftCall) :
    (d.only c.part).call c = ((d.call c).1.only c.part, (d.call c).2) := by
  -- Each check reads the kind and the call's own part only.
  cases c with
  | addDoc source => exact attempt_only (addDoc_only source)
  | addAttributes attributes => rfl
  | tag key value => rfl
  | addModifiers modifiers =>
    exact attempt_only (allowed_only .modifiers .addModifiers
      { d with modifiers := d.modifiers ∪ ModifierSet.ofList modifiers })
  | addTypeVariables vs => exact attempt_only (addTypeVariables_only vs)
  | returns type =>
    exact attempt_only (allowed_only .returns .returns
      { d with signature := { d.signature with returns := type } })
  | addParameter source => exact attempt_only (addParameter_only source)
  | addParameters ps => exact attempt_only (addParameters_only ps)
  | setAbstract value => exact attempt_only (setAbstract_only value)
  | setFailable value =>
    exact attempt_only (allowed_only .failable .failable
      { d with signature := { d.signature with isFailable := value } })
  | setThrowing value => rfl
  | setAsync value => rfl
  | addLocalTypes types => exact attempt_only (addLocalTypes_only types)
  | addCode source => exact attempt_only (addCode_only source)
  | addNamedCode format arguments =>
    exact attempt_only (filledBody_only (d.body.addNamed format arguments))
  | addComment format arguments =>
    exact attempt_only (filledBody_only (d.body.add ("// " ++ format ++ "\n") arguments))
  | addStatement format arguments =>
    exact attempt_only (filledBody_only (d.body.addStatement format arguments))
  | beginControlFlow name condition arguments =>
    exact attempt_only (filledBody_only (d.body.beginControlFlow name condition arguments))
  | nextControlFlow name condition arguments =>
    -- It is no single attempt: the end of the branch stays also if the header is refused.
    rw [call, call]
    exact nextControlFlow_only name condition arguments
  | endControlFlow => exact attempt_only endControlFlow_only

/-! ## A call changes its own part -/

/-- A draft and what comes out if one of its parts changes. -/
inductive ChangedIn (d : FunctionDraft) : DraftPart → FunctionDraft → Prop where
  | same (p : DraftPart) : ChangedIn d p d
  | doc (doc : Code) : ChangedIn d .doc { d with doc }
  | attributes (attributes : List Attribute) : ChangedIn d .attributes { d with attributes }
  | tags (tags : Tags) : ChangedIn d .tags { d with tags }
  | modifiers (modifiers : ModifierSet) : ChangedIn d .modifiers { d with modifiers }
  | typeVariables (typeVariables : List TypeVariable) :
      ChangedIn d .typeVariables { d with signature := { d.signature with typeVariables } }
  | parameters (parameters : List Parameter) :
      ChangedIn d .parameters { d with signature := { d.signature with parameters } }
  | returns (returns : Option TypeName) :
      ChangedIn d .returns { d with signature := { d.signature with returns } }
  | isFailable (isFailable : Bool) :
      ChangedIn d .failable { d with signature := { d.signature with isFailable } }
  | isThrowing (isThrowing : Bool) :
      ChangedIn d .throwing { d with signature := { d.signature with isThrowing } }
  | isAsync (isAsync : Bool) :
      ChangedIn d .async { d with signature := { d.signature with isAsync } }
  | body (body : Code) (isAbstract : Bool) (localTypes : List TypeDecl) :
      ChangedIn d .body { d with body, isAbstract, localTypes }

/-- All other parts are as they were. -/
theorem ChangedIn.only_eq {p q : DraftPart} (h : ChangedIn d q d') (hne : q ≠ p) :
    d'.only p = d.only p := by
  cases h with
  | same => rfl
  | _ => cases p <;> first | rfl | exact absurd rfl hne

/-- An attempt changes the part that each draft it can give differs in. -/
theorem attempt_changedIn {p : DraftPart} {r : Except Fault FunctionDraft}
    (h : ∀ d', r = .ok d' → ChangedIn d p d') : ChangedIn d p (d.attempt r).1 := by
  cases r with
  | ok d' => exact h d' rfl
  | error fault => exact .same p

/-- An attempt to fill the body changes nothing else. -/
theorem filledBody_changedIn (filled : Except TemplateError Code) :
    ChangedIn d .body (d.attempt
      (do d.checkHasBody; return { d with body := ← Fault.ofTemplate filled })).1 := by
  refine attempt_changedIn fun d' hd => ?_
  obtain ⟨-, body, -, rfl⟩ := filledBody_eq_ok_iff.1 hd
  exact .body body d.isAbstract d.localTypes

/-- A call changes at most its own part. -/
theorem call_changedIn (d : FunctionDraft) (c : DraftCall) :
    ChangedIn d c.part (d.call c).1 := by
  cases c with
  | addDoc source =>
    refine attempt_changedIn fun d' hd => ?_
    obtain ⟨-, added, -, rfl⟩ := addDoc_eq_ok_iff.1 hd
    exact .doc _
  | addAttributes attributes => exact .attributes _
  | tag key value => exact .tags _
  | addModifiers modifiers =>
    refine attempt_changedIn fun d' hd => ?_
    obtain ⟨-, rfl⟩ := addModifiers_eq_ok_iff.1 hd
    exact .modifiers _
  | addTypeVariables vs =>
    refine attempt_changedIn fun d' hd => ?_
    obtain ⟨-, rfl⟩ := addTypeVariables_eq_ok_iff.1 hd
    rw [Signature.addTypeVariables_eq]
    exact .typeVariables _
  | returns type =>
    refine attempt_changedIn fun d' hd => ?_
    obtain ⟨-, rfl⟩ := returns_eq_ok_iff.1 hd
    exact .returns type
  | addParameter source =>
    refine attempt_changedIn fun d' hd => ?_
    obtain ⟨p, -, hp⟩ := addParameter_eq_ok_iff.1 hd
    obtain ⟨-, rfl⟩ := addParameters_eq_ok_iff.1 hp
    exact .parameters _
  | addParameters ps =>
    refine attempt_changedIn fun d' hd => ?_
    obtain ⟨-, rfl⟩ := addParameters_eq_ok_iff.1 hd
    exact .parameters _
  | setAbstract value =>
    refine attempt_changedIn fun d' hd => ?_
    obtain ⟨-, rfl⟩ := setAbstract_eq_ok_iff.1 hd
    exact .body d.body value d.localTypes
  | setFailable value =>
    refine attempt_changedIn fun d' hd => ?_
    obtain ⟨-, rfl⟩ := setFailable_eq_ok_iff.1 hd
    exact .isFailable value
  | setThrowing value => exact .isThrowing value
  | setAsync value => exact .isAsync value
  | addLocalTypes types =>
    refine attempt_changedIn fun d' hd => ?_
    obtain ⟨-, rfl⟩ := addLocalTypes_eq_ok_iff.1 hd
    exact .body d.body d.isAbstract _
  | addCode source =>
    refine attempt_changedIn fun d' hd => ?_
    obtain ⟨-, added, -, rfl⟩ := addCode_eq_ok_iff.1 hd
    exact .body _ d.isAbstract d.localTypes
  | addNamedCode format arguments => exact filledBody_changedIn _
  | addComment format arguments => exact filledBody_changedIn _
  | addStatement format arguments => exact filledBody_changedIn _
  | beginControlFlow name condition arguments => exact filledBody_changedIn _
  | nextControlFlow name condition arguments =>
    -- An abstract function refuses the branch, and any other has at least closed the one before.
    rcases d.nextControlFlow_cases name condition arguments with ⟨-, hcall⟩ | ⟨-, hcall⟩
    · rw [call, hcall]
      exact .same .body
    · rw [call, hcall]
      exact .body _ d.isAbstract d.localTypes
  | endControlFlow =>
    refine attempt_changedIn fun d' hd => ?_
    obtain ⟨-, rfl⟩ := endControlFlow_eq_ok_iff.1 hd
    exact .body _ d.isAbstract d.localTypes

/-! ## Runs, part by part -/

/-- The calls of a run, each with its fault if it is refused. -/
def record (d : FunctionDraft) (calls : List DraftCall) : List (DraftCall × Option Fault) :=
  calls.zip (d.outcomes calls)

@[simp] theorem record_nil (d : FunctionDraft) : d.record [] = [] := rfl

@[simp] theorem record_cons (d : FunctionDraft) (c : DraftCall) (cs : List DraftCall) :
    d.record (c :: cs) = (c, (d.call c).2) :: (d.call c).1.record cs := rfl

/-- The record of the calls on a part. -/
def recordOn (d : FunctionDraft) (p : DraftPart) (calls : List DraftCall) :
    List (DraftCall × Option Fault) :=
  (d.record calls).filter fun entry => entry.1.part = p

/-- On each part, a run does what its calls on this part do by themselves, once all other parts are
forgotten. -/
theorem only_run (d : FunctionDraft) (p : DraftPart) (calls : List DraftCall) :
    (d.run calls).only p = (d.only p).run (p.callsIn calls) ∧
      d.recordOn p calls = (d.only p).record (p.callsIn calls) := by
  induction calls generalizing d with
  | nil => exact ⟨rfl, rfl⟩
  | cons c cs ih =>
    obtain ⟨hrun, hrecord⟩ := ih (d.call c).1
    unfold recordOn DraftPart.callsIn at *
    by_cases hc : c.part = p
    · subst hc
      have hcall := d.call_only c
      simp only [List.filter_cons, decide_true, if_true, run_cons, record_cons]
      rw [hcall]
      exact ⟨hrun, congrArg _ hrecord⟩
    · -- The call is on another part, so nothing has changed on this one.
      rw [(d.call_changedIn c).only_eq hc] at hrun hrecord
      simp only [List.filter_cons, hc, decide_false, Bool.false_eq_true, if_false, run_cons,
        record_cons]
      exact ⟨hrun, hrecord⟩

/-! ## Modifiers in any order -/

/-- The fault of every call that adds modifiers, if the kind cannot have them. -/
def modifiersFault (d : FunctionDraft) : Option Fault :=
  (d.kind.forbids? .addModifiers).map fun rule => .grammar ⟨d.name, rule⟩

/-- A call that adds modifiers comes out as its kind says, whatever the modifiers. -/
theorem call_addModifiers (d : FunctionDraft) (ms : List Modifier) :
    d.call (.addModifiers ms) =
      (if d.modifiersFault.isSome then d
        else { d with modifiers := d.modifiers ∪ ModifierSet.ofList ms }, d.modifiersFault) := by
  unfold call addModifiers checkAllowed FunctionKind.checkAllowed modifiersFault
  cases d.kind.forbids? .addModifiers <;> rfl

/-- A call on the modifiers adds some. -/
theorem exists_eq_addModifiers {c : DraftCall} (h : c.part = .modifiers) :
    ∃ ms, c = .addModifiers ms := by
  cases c with
  | addModifiers ms => exact ⟨ms, rfl⟩
  | _ => cases h

/-- Two calls on the modifiers can change places. -/
theorem call_modifiers_comm {b c : DraftCall} (hb : b.part = .modifiers) (hc : c.part = .modifiers)
    (d : FunctionDraft) : ((d.call b).1.call c).1 = ((d.call c).1.call b).1 := by
  obtain ⟨ms, rfl⟩ := exists_eq_addModifiers hb
  obtain ⟨ns, rfl⟩ := exists_eq_addModifiers hc
  have hunion : d.modifiers ∪ ModifierSet.ofList ms ∪ ModifierSet.ofList ns =
      d.modifiers ∪ ModifierSet.ofList ns ∪ ModifierSet.ofList ms := by
    apply ModifierSet.ext
    intro m
    simp only [ModifierSet.mem_union]
    exact or_right_comm
  have hkept (s : ModifierSet) : modifiersFault { d with modifiers := s } = d.modifiersFault := rfl
  simp only [call_addModifiers]
  cases hfault : d.modifiersFault with
  | some fault => simp [hfault]
  | none => simp [hkept, hfault, hunion]

/-- Each call on the modifiers has the same outcome, whatever the order. -/
theorem record_of_modifiers {calls : List DraftCall} (h : ∀ c ∈ calls, c.part = .modifiers)
    (d : FunctionDraft) : d.record calls = calls.map fun c => (c, d.modifiersFault) := by
  induction calls generalizing d with
  | nil => rfl
  | cons c cs ih =>
    obtain ⟨ms, rfl⟩ := exists_eq_addModifiers (h c List.mem_cons_self)
    have hkept : (d.call (.addModifiers ms)).1.modifiersFault = d.modifiersFault := by
      rw [call_addModifiers]
      dsimp only
      split <;> rfl
    rw [record_cons, ih (fun b hb => h b (List.mem_cons_of_mem _ hb)), hkept, call_addModifiers]
    rfl

/-- Calls on the modifiers can be made in any order. -/
theorem run_modifiers_perm {calls calls' : List DraftCall} (hperm : calls.Perm calls')
    (h : ∀ c ∈ calls, c.part = .modifiers) (d : FunctionDraft) :
    d.run calls = d.run calls' ∧ (d.record calls).Perm (d.record calls') := by
  constructor
  · exact hperm.foldl_eq' (fun b hb c hc d => call_modifiers_comm (h b hb) (h c hc) d) d
  · have h' : ∀ c ∈ calls', c.part = .modifiers := fun c hc => h c (hperm.mem_iff.2 hc)
    rw [record_of_modifiers h, record_of_modifiers h']
    exact hperm.map _

/-! ## Runs in another order -/

/-- The same calls in another order, in which the calls on each part follow each other as before.
Only the calls on the modifiers can come in any order. -/
structure Reordered (calls calls' : List DraftCall) : Prop where
  kept : ∀ p : DraftPart, p ≠ .modifiers → p.callsIn calls = p.callsIn calls'
  modifiers : (DraftPart.modifiers.callsIn calls).Perm (DraftPart.modifiers.callsIn calls')

/-- If the calls on each part keep their order, a run ends in the same draft, and so in the same
declaration, and each of its calls is accepted or refused as before, with the same fault. -/
theorem run_reordered {calls calls' : List DraftCall} (h : Reordered calls calls')
    (d : FunctionDraft) :
    d.run calls = d.run calls' ∧ (d.run calls).build = (d.run calls').build ∧
      (∀ p, p ≠ .modifiers → d.recordOn p calls = d.recordOn p calls') ∧
      (d.recordOn .modifiers calls).Perm (d.recordOn .modifiers calls') := by
  have hmodifiers := run_modifiers_perm h.modifiers
    (fun c hc => of_decide_eq_true (List.mem_filter.1 hc).2) (d.only .modifiers)
  have hrun : d.run calls = d.run calls' := by
    apply eq_of_only_eq
    intro p
    rw [(d.only_run p calls).1, (d.only_run p calls').1]
    by_cases hp : p = .modifiers
    · subst hp
      exact hmodifiers.1
    · rw [h.kept p hp]
  refine ⟨hrun, congrArg build hrun, ?_, ?_⟩
  · intro p hp
    rw [(d.only_run p calls).2, (d.only_run p calls').2, h.kept p hp]
  · rw [(d.only_run .modifiers calls).2, (d.only_run .modifiers calls').2]
    exact hmodifiers.2

/-- A setter whose calls change places, among them a second parameter and an abstract mark that are
refused. -/
theorem run_reordered_setter :
    let calls : List DraftCall := [
      .addModifiers [.publicAccess],
      .addParameters [{ name := "value", type := .int }],
      .addStatement "store(%L)" [.text "value"],
      .addModifiers [.mutating],
      .addParameters [{ name := "other", type := .int }],
      .setAbstract true]
    let calls' : List DraftCall := [
      .addStatement "store(%L)" [.text "value"],
      .setAbstract true,
      .addModifiers [.mutating],
      .addParameters [{ name := "value", type := .int }],
      .addModifiers [.publicAccess],
      .addParameters [{ name := "other", type := .int }]]
    Reordered calls calls' ∧
      Factory.setter.draft.outcomes calls =
        [none, none, none, none, some (.grammar ⟨"set", .oneParameter⟩),
          some (.grammar ⟨"set", .codeNotAbstract⟩)] ∧
      Factory.setter.reach calls = Factory.setter.reach calls' := by
  intro calls calls'
  have hreordered : Reordered calls calls' := by
    constructor
    · intro p hp
      cases p with
      | modifiers => exact absurd rfl hp
      | _ => rfl
    · exact .swap _ _ []
  exact ⟨hreordered, rfl, (run_reordered hreordered Factory.setter.draft).1⟩

end FunctionDraft

end SwiftDecl
