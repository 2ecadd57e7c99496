import SwiftDecl.Proofs.Code.Alignment
import SwiftDecl.Proofs.Draft.Calls

/-!
# The changes that calls make

Twenty calls make thirteen kinds of change: the calls on the body all append to it. `Change`
lists the kinds with what is known where they happen, and `call_changes` says that a call makes one
of them or leaves the draft as it is. An invariant of drafts is proved once for each kind of
change, and holds after every run (`run_induction_on_changes`), accepted or refused.
-/

namespace SwiftDecl

/-- What a call brings in as a block has been built by the operations on blocks. -/
def DraftCall.BlocksBuilt : DraftCall → Prop
  | addDoc (.block code _) => code.Built
  | addCode (.block code _) => code.Built
  | _ => True

namespace FunctionDraft

/-- A draft and what comes out of one change, with the code that the change appends. -/
inductive Change (d : FunctionDraft) : Code → FunctionDraft → Prop where
  | doc (added : Code) : Change d added { d with doc := d.doc ++ added }
  | attributes (attributes : List Attribute) : Change d {} { d with attributes }
  | tags (tags : Tags) : Change d {} { d with tags }
  | modifiers (h : d.kind.forbids? .addModifiers = none) (modifiers : ModifierSet) :
      Change d {} { d with modifiers }
  | typeVariables (h : d.kind.forbids? .addTypeVariables = none) (vs : List TypeVariable) :
      Change d {} { d with signature := d.signature.addTypeVariables vs }
  | returns (h : d.kind.forbids? .returns = none) (type : Option TypeName) :
      Change d {} { d with signature := { d.signature with returns := type } }
  | parameters {ps : List Parameter} (h : d.TakesParameters ps.length) :
      Change d {} { d with signature := d.signature.addParameters ps }
  | isAbstract {value : Bool} (h : value = true → d.body.parts = []) :
      Change d {} { d with isAbstract := value }
  | isFailable (h : d.kind.forbids? .failable = none) (value : Bool) :
      Change d {} { d with signature := { d.signature with isFailable := value } }
  | isThrowing (value : Bool) :
      Change d {} { d with signature := { d.signature with isThrowing := value } }
  | isAsync (value : Bool) :
      Change d {} { d with signature := { d.signature with isAsync := value } }
  | localTypes (h : d.isAbstract = false) (types : List TypeDecl) :
      Change d {} { d with localTypes := d.localTypes ++ types }
  | body (h : d.isAbstract = false) (added : Code) :
      Change d added { d with body := d.body ++ added }

variable {d : FunctionDraft}

/-- The draft is the same, or one change leads to it, and what is appended is aligned if the
blocks that come in are built. -/
def Changes (d : FunctionDraft) (built : Prop) (d' : FunctionDraft) : Prop :=
  d' = d ∨ ∃ added, Change d added d' ∧ (built → added.Aligned)

/-- A change that appends nothing. -/
theorem Changes.plain {built : Prop} {d' : FunctionDraft} (h : Change d {} d') :
    Changes d built d' :=
  .inr ⟨{}, h, fun _ => Code.aligned_empty⟩

/-- A change that appends an aligned block to the body. -/
theorem Changes.appended {built : Prop} {body added : Code} (h : d.isAbstract = false)
    (hbody : body = d.body ++ added) (hadded : added.Aligned) :
    Changes d built { d with body } := by
  subst hbody
  exact .inr ⟨added, .body h added, fun _ => hadded⟩

/-- What a source gives is aligned if it is a template, or a built block. -/
theorem gives_aligned {source : CodeSource} {added : Code} (h : source.Gives added)
    (hbuilt : ∀ code arguments, source = .block code arguments → code.Built) : added.Aligned := by
  cases source with
  | template format arguments => exact Code.instantiate_aligned h
  | block code arguments =>
    have hsame : added = code := h
    rw [hsame]
    exact (hbuilt code arguments rfl).aligned

/-- An attempt makes a change if each draft that it can give comes from one. -/
theorem attempt_changes {built : Prop} {r : Except Fault FunctionDraft}
    (h : ∀ d', r = .ok d' → Changes d built d') : Changes d built (d.attempt r).1 := by
  cases r with
  | ok d' => exact h d' rfl
  | error fault => exact .inl rfl

/-- The next branch of a control flow appends to the body, refused or not. -/
theorem nextControlFlow_changes {built : Prop} (name condition : String)
    (arguments : List Argument) :
    Changes d built (d.nextControlFlow name condition arguments).1 := by
  rcases d.nextControlFlow_cases name condition arguments with ⟨_, hcall⟩ | ⟨hbody, hcall⟩
  · rw [hcall]
    exact .inl rfl
  · rw [hcall]
    rcases Code.nextControlFlow_cases d.body name condition arguments with
      ⟨header, hheader, hnext⟩ | ⟨e, _, hnext⟩
    · rw [hnext]
      have hopened := (Code.instantiate_aligned hheader).append
        (b := Code.ofParts [.directive .indent]) rfl
      exact .appended hbody rfl (Code.branchEnd_aligned.append hopened)
    · rw [hnext]
      exact .appended hbody rfl Code.branchEnd_aligned

/-- A call makes one change or leaves the draft as it is. -/
theorem call_changes (d : FunctionDraft) (c : DraftCall) :
    Changes d c.BlocksBuilt (d.call c).1 := by
  cases c with
  | addDoc source =>
    refine attempt_changes fun d' hd => ?_
    obtain ⟨_, added, hgives, rfl⟩ := addDoc_eq_ok_iff.1 hd
    refine .inr ⟨added, .doc added, fun hbuilt => gives_aligned hgives ?_⟩
    -- A block that is passed in has an argument for each slot only if it was built.
    rintro code arguments rfl
    exact hbuilt
  | addAttributes attributes => exact .plain (.attributes _)
  | tag key value => exact .plain (.tags _)
  | addModifiers modifiers =>
    refine attempt_changes fun d' hd => ?_
    obtain ⟨hallowed, rfl⟩ := addModifiers_eq_ok_iff.1 hd
    exact .plain (.modifiers hallowed _)
  | addTypeVariables vs =>
    refine attempt_changes fun d' hd => ?_
    obtain ⟨hallowed, rfl⟩ := addTypeVariables_eq_ok_iff.1 hd
    exact .plain (.typeVariables hallowed vs)
  | returns type =>
    refine attempt_changes fun d' hd => ?_
    obtain ⟨hallowed, rfl⟩ := returns_eq_ok_iff.1 hd
    exact .plain (.returns hallowed type)
  | addParameter source =>
    refine attempt_changes fun d' hd => ?_
    -- One parameter is a batch of one.
    obtain ⟨p, _, hp⟩ := addParameter_eq_ok_iff.1 hd
    obtain ⟨htakes, rfl⟩ := addParameters_eq_ok_iff.1 hp
    exact .plain (.parameters htakes)
  | addParameters ps =>
    refine attempt_changes fun d' hd => ?_
    obtain ⟨htakes, rfl⟩ := addParameters_eq_ok_iff.1 hd
    exact .plain (.parameters htakes)
  | setAbstract value =>
    refine attempt_changes fun d' hd => ?_
    obtain ⟨hempty, rfl⟩ := setAbstract_eq_ok_iff.1 hd
    exact .plain (.isAbstract hempty)
  | setFailable value =>
    refine attempt_changes fun d' hd => ?_
    obtain ⟨hallowed, rfl⟩ := setFailable_eq_ok_iff.1 hd
    exact .plain (.isFailable hallowed value)
  | setThrowing value => exact .plain (.isThrowing value)
  | setAsync value => exact .plain (.isAsync value)
  | addLocalTypes types =>
    refine attempt_changes fun d' hd => ?_
    obtain ⟨hbody, rfl⟩ := addLocalTypes_eq_ok_iff.1 hd
    exact .plain (.localTypes hbody types)
  | addCode source =>
    refine attempt_changes fun d' hd => ?_
    obtain ⟨hbody, added, hgives, rfl⟩ := addCode_eq_ok_iff.1 hd
    refine .inr ⟨added, .body hbody added, fun hbuilt => gives_aligned hgives ?_⟩
    rintro code arguments rfl
    exact hbuilt
  | addNamedCode format arguments =>
    refine attempt_changes fun d' hd => ?_
    obtain ⟨hbody, body, hfilled, rfl⟩ := addNamedCode_eq_ok_iff.1 hd
    -- From here on the block is filled from a template, which always gives its slots arguments.
    obtain ⟨added, hadded, hsum⟩ := Code.addNamed_eq_ok_iff.1 hfilled
    exact .appended hbody hsum (Code.instantiateNamed_aligned hadded)
  | addComment format arguments =>
    refine attempt_changes fun d' hd => ?_
    obtain ⟨hbody, body, hfilled, rfl⟩ := addComment_eq_ok_iff.1 hd
    obtain ⟨added, hadded, hsum⟩ := Code.add_eq_ok_iff.1 hfilled
    exact .appended hbody hsum (Code.instantiate_aligned hadded)
  | addStatement format arguments =>
    refine attempt_changes fun d' hd => ?_
    obtain ⟨hbody, body, hfilled, rfl⟩ := addStatement_eq_ok_iff.1 hd
    obtain ⟨added, hadded, hsum⟩ := Code.addStatement_eq_ok_iff.1 hfilled
    exact .appended hbody hsum ((Code.instantiate_aligned hadded).append rfl)
  | beginControlFlow name condition arguments =>
    refine attempt_changes fun d' hd => ?_
    obtain ⟨hbody, body, hfilled, rfl⟩ := beginControlFlow_eq_ok_iff.1 hd
    obtain ⟨header, hheader, hsum⟩ := Code.beginControlFlow_eq_ok_iff.1 hfilled
    exact .appended hbody hsum ((Code.instantiate_aligned hheader).append rfl)
  | nextControlFlow name condition arguments =>
    exact nextControlFlow_changes name condition arguments
  | endControlFlow =>
    refine attempt_changes fun d' hd => ?_
    obtain ⟨hbody, rfl⟩ := endControlFlow_eq_ok_iff.1 hd
    exact .appended hbody (Code.endControlFlow_eq d.body) rfl

/-- What every change keeps holds after every run. What the changes append can be taken as
aligned if the blocks of all calls are built. -/
theorem run_induction_on_changes {P : FunctionDraft → Prop} {calls : List DraftCall}
    (hstep : ∀ d added d', Change d added d' →
      ((∀ c ∈ calls, c.BlocksBuilt) → added.Aligned) → P d → P d')
    (h : P d) : P (d.run calls) := by
  refine run_induction (fun c hc d hd => ?_) h
  rcases d.call_changes c with hsame | ⟨added, hchange, haligned⟩
  · rw [hsame]
    exact hd
  · exact hstep d added _ hchange (fun hbuilt => haligned (hbuilt c hc)) hd

end FunctionDraft

end SwiftDecl
