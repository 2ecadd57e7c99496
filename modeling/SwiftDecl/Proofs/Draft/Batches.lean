import SwiftDecl.Proofs.Draft.Calls
import SwiftDecl.Proofs.Signature

/-!
# Batches of parameters

Parameters and generic parameters are added in batches, each with one call. A batch that is cut
into pieces is added piece by piece with the same result: it is accepted exactly if each of the
pieces is, and then the same draft comes out (`FunctionDraft.Gathers`). The difference is in what a
refused batch leaves behind, which is nothing, while pieces that are accepted before one that is
refused stay.

What makes this so is the same for both sorts of items (`FunctionDraft.Batched`): two batches in
turn are accepted or refused as one, and a draft refuses whatever it refuses for one fault, which
adding items does not change.
-/

namespace SwiftDecl

namespace Signature

/-- Generic parameters are added in two batches as in one. -/
theorem addTypeVariables_append (s : Signature) (us vs : List TypeVariable) :
    s.addTypeVariables (us ++ vs) = (s.addTypeVariables us).addTypeVariables vs :=
  List.foldl_append

/-- Parameters are added in two batches as in one. -/
theorem addParameters_append (s : Signature) (ps qs : List Parameter) :
    s.addParameters (ps ++ qs) = (s.addParameters ps).addParameters qs := by
  unfold addParameters
  rw [List.append_assoc]

end Signature

namespace FunctionDraft

variable {d d' : FunctionDraft}

/-! ## One call for several -/

/-- One call does what the calls do in turn. It is accepted exactly if each of them is, and then
they lead to the same draft. If it is refused, it changes nothing, and each of them that is refused
breaks the same rule. -/
structure Gathers (d : FunctionDraft) (c : DraftCall) (calls : List DraftCall) : Prop where
  accepted_iff : (d.call c).2 = none ↔ ∀ outcome ∈ d.outcomes calls, outcome = none
  run_eq : (d.call c).2 = none → d.run calls = (d.call c).1
  fault_eq : ∀ fault, (d.call c).2 = some fault →
    ∀ other, some other ∈ d.outcomes calls → other = fault
  unchanged : ∀ fault, (d.call c).2 = some fault → (d.call c).1 = d

namespace Gathers

variable {c c' first : DraftCall} {calls : List DraftCall}

/-- A call does what it does. -/
theorem refl (h : ∀ fault, (d.call c).2 = some fault → (d.call c).1 = d) : d.Gathers c [c] where
  accepted_iff := by simp [outcomes]
  run_eq _ := rfl
  fault_eq fault hfault other hother := by
    rw [outcomes, outcomes, List.mem_singleton, hfault] at hother
    exact Option.some.inj hother
  unchanged := h

/-- The first of the calls is refused, and with it the one call. -/
theorem of_refused {fault : Fault} (hcall : d.call c = (d, some fault))
    (hfirst : d.call first = (d, some fault))
    (hothers : ∀ other, some other ∈ d.outcomes calls → other = fault) :
    d.Gathers c (first :: calls) where
  accepted_iff := by simp [hcall, outcomes, hfirst]
  run_eq hnone := by
    rw [hcall] at hnone
    cases hnone
  fault_eq e he other hother := by
    rw [hcall] at he
    cases he
    rw [outcomes, hfirst, List.mem_cons] at hother
    rcases hother with hhere | hlater
    · exact Option.some.inj hhere
    · exact hothers other hlater
  unchanged _ _ := by rw [hcall]

/-- The first of the calls is accepted, and the others go on from where it leads. -/
theorem of_accepted {r : Except Fault FunctionDraft} (hcall : d.call c = d.attempt r)
    (hfirst : d.call first = (d', none)) (hcall' : d'.call c' = d'.attempt r)
    (hrest : d'.Gathers c' calls) : d.Gathers c (first :: calls) := by
  obtain ⟨haccepted, hrun, hfault, -⟩ := hrest
  have hoffirst : d.outcomes (first :: calls) = none :: d'.outcomes calls := by
    rw [outcomes, hfirst]
  -- Both drafts try the same result, so they report the same fault.
  have hsame : (d.call c).2 = (d'.call c').2 := by
    rw [hcall, hcall']
    cases r <;> rfl
  refine ⟨?_, ?_, ?_, ?_⟩
  · rw [hsame, haccepted, hoffirst]
    simp
  · intro hnone
    rw [run_cons, hfirst, hrun (hsame ▸ hnone), hcall, hcall']
    rw [hcall] at hnone
    cases r with
    | ok last => rfl
    | error fault => cases hnone
  · -- The first call adds no fault to those of the others.
    intro fault hrefused other hother
    rw [hoffirst, List.mem_cons] at hother
    rw [hsame] at hrefused
    exact hfault fault hrefused other (hother.resolve_left (by simp))
  · intro fault hrefused
    rw [hcall] at hrefused ⊢
    exact attempt_refused hrefused

end Gathers

/-- Items are added in batches, each with one call: two in turn are one, and all that a draft
refuses it refuses for one fault, which adding items does not change. -/
structure Batched {α : Type} (adding : List α → DraftCall)
    (add : FunctionDraft → List α → Except Fault FunctionDraft) (fault : FunctionDraft → Fault) :
    Prop where
  call : ∀ (d : FunctionDraft) xs, d.call (adding xs) = d.attempt (add d xs)
  accepted : ∀ {d d'' xs ys},
    add d (xs ++ ys) = .ok d'' ↔ ∃ d', add d xs = .ok d' ∧ add d' ys = .ok d''
  refused : ∀ {d xs e}, add d xs = .error e → e = fault d
  kept : ∀ {d d' xs}, add d xs = .ok d' → fault d' = fault d

namespace Batched

variable {α : Type} {adding : List α → DraftCall}
  {add : FunctionDraft → List α → Except Fault FunctionDraft} {fault : FunctionDraft → Fault}

/-- Two batches in turn are accepted or refused as one. -/
theorem append (h : Batched adding add fault) (d : FunctionDraft) (xs ys : List α) :
    add d (xs ++ ys) = add d xs >>= fun d' => add d' ys := by
  cases hboth : add d (xs ++ ys) with
  | ok d'' =>
    obtain ⟨d', hfirst, hsecond⟩ := h.accepted.1 hboth
    rw [hfirst]
    exact hsecond.symm
  | error e =>
    -- The two together are refused: one of the two in turn is, with the same fault.
    rw [h.refused hboth]
    cases hfirst : add d xs with
    | error e' =>
      rw [h.refused hfirst]
      rfl
    | ok d' =>
      show Except.error (fault d) = add d' ys
      cases hsecond : add d' ys with
      | error e' =>
        -- The first is accepted, and it does not change which fault is reported.
        rw [h.refused hsecond, h.kept hfirst]
      | ok d'' =>
        -- Both in turn are accepted, so the two together are.
        rw [h.accepted.2 ⟨d', hfirst, hsecond⟩] at hboth
        cases hboth

/-- Every batch that is refused in a run of batches is refused for the fault of the first draft. -/
theorem fault_of_mem_outcomes (h : Batched adding add fault) {pieces : List (List α)}
    {other : Fault} (hother : some other ∈ d.outcomes (pieces.map adding)) : other = fault d := by
  induction pieces generalizing d with
  | nil => cases hother
  | cons xs rest ih =>
    rw [List.map_cons, outcomes, h.call, List.mem_cons] at hother
    cases hadd : add d xs with
    | ok d' =>
      rw [hadd] at hother
      rcases hother with hfirst | hrest
      · cases hfirst
      · exact (ih hrest).trans (h.kept hadd)
    | error e =>
      rw [hadd] at hother
      rcases hother with hfirst | hrest
      · cases hfirst
        exact h.refused hadd
      · exact ih hrest

/-- A batch does what its pieces do in turn. -/
theorem gathers (h : Batched adding add fault) (d : FunctionDraft) (xs : List α)
    (rest : List (List α)) :
    d.Gathers (adding (xs :: rest).flatten) ((xs :: rest).map adding) := by
  induction rest generalizing d xs with
  | nil =>
    rw [List.flatten_singleton, List.map_singleton]
    refine Gathers.refl fun e he => ?_
    rw [h.call] at he ⊢
    exact attempt_refused he
  | cons ys more ih =>
    -- The later pieces are kept general, since the first piece decides on the draft they start
    -- from.
    have hlater := fun d' => ih d' ys
    rw [List.flatten_cons, List.map_cons]
    generalize (ys :: more).flatten = later at hlater
    have hbatch := h.call d (xs ++ later)
    have hfirst := h.call d xs
    rw [h.append] at hbatch
    cases hadd : add d xs with
    | error e =>
      -- The first piece is refused: the batch is as well, and so are all pieces after it.
      rw [hadd] at hbatch hfirst
      have hothers : ∀ other, some other ∈ d.outcomes ((ys :: more).map adding) → other = e := by
        intro other hother
        rw [h.fault_of_mem_outcomes hother, h.refused hadd]
      exact .of_refused hbatch hfirst hothers
    | ok d' =>
      -- The first piece is accepted, and the others go on from its draft.
      rw [hadd] at hbatch hfirst
      exact .of_accepted hbatch hfirst (h.call d' later) (hlater d')

/-- A batch with something in it does what its items do one by one. -/
theorem gathers_each (h : Batched adding add fault) (d : FunctionDraft) {xs : List α}
    (hxs : xs ≠ []) : d.Gathers (adding xs) (xs.map fun x => adding [x]) := by
  obtain ⟨first, rest, rfl⟩ := List.exists_cons_of_ne_nil hxs
  have hpieces := h.gathers d [first] (rest.map fun x => [x])
  have hflat : ([first] :: rest.map fun x => [x]).flatten = first :: rest := by
    rw [List.flatten_cons, ← List.flatMap_def, List.flatMap_singleton']
    rfl
  rw [hflat, List.map_cons, List.map_map] at hpieces
  exact hpieces

end Batched

/-! ## Generic parameters -/

/-- The fault of every batch of generic parameters that is refused. -/
def typeVariablesFault (d : FunctionDraft) : Fault :=
  .grammar ⟨d.name, .accessorWithTypeVariables⟩

/-- Generic parameters are refused for one fault, however many there are. -/
theorem addTypeVariables_eq_error {vs : List TypeVariable} {e : Fault}
    (h : d.addTypeVariables vs = .error e) : e = d.typeVariablesFault := by
  unfold addTypeVariables checkAllowed FunctionKind.checkAllowed at h
  cases hforbids : d.kind.forbids? .addTypeVariables with
  | none =>
    rw [hforbids] at h
    cases h
  | some rule =>
    rw [hforbids] at h
    cases h
    have hrule : rule = .accessorWithTypeVariables := by
      simp only [FunctionKind.forbids?, Option.ite_none_right_eq_some,
        Option.some.injEq] at hforbids
      exact hforbids.2.symm
    rw [hrule]
    rfl

/-- Generic parameters are added in batches. -/
theorem batched_typeVariables :
    Batched .addTypeVariables addTypeVariables typeVariablesFault where
  call _ _ := rfl
  accepted := by
    intro d d'' us vs
    simp only [addTypeVariables_eq_ok_iff]
    constructor
    · rintro ⟨hallowed, rfl⟩
      rw [Signature.addTypeVariables_append]
      exact ⟨_, ⟨hallowed, rfl⟩, hallowed, rfl⟩
    · rintro ⟨_, ⟨hallowed, rfl⟩, -, rfl⟩
      rw [Signature.addTypeVariables_append]
      exact ⟨hallowed, rfl⟩
  refused := addTypeVariables_eq_error
  kept h := by
    obtain ⟨-, rfl⟩ := addTypeVariables_eq_ok_iff.1 h
    rfl

/-- An accepted batch of generic parameters adds those that are not there yet, each where it first
occurs. -/
theorem call_addTypeVariables {vs : List TypeVariable}
    (h : (d.call (.addTypeVariables vs)).2 = none) :
    (d.call (.addTypeVariables vs)).1 =
      { d with
        signature := { d.signature with
          typeVariables := d.signature.typeVariables ++
            (vs.filter fun v => v ∉ d.signature.typeVariables).eraseDups } } := by
  rw [call] at h ⊢
  cases hadd : d.addTypeVariables vs with
  | error e =>
    rw [hadd] at h
    cases h
  | ok d' =>
    obtain ⟨-, rfl⟩ := addTypeVariables_eq_ok_iff.1 hadd
    rw [Signature.addTypeVariables_eq, Signature.extended_eq]
    rfl

/-! ## Parameters -/

/-- The fault of every batch of parameters that is refused: the kind takes none, or it takes one. -/
def parametersFault (d : FunctionDraft) : Fault :=
  .grammar ⟨d.name, (d.kind.forbids? .addParameters).getD .oneParameter⟩

/-- A kind refuses parameters for one rule, however many there are and are added. -/
theorem checkParameterCount_eq_error {kind : FunctionKind} {name : String} {current added : Int}
    {e : GrammarError} (h : kind.checkParameterCount name current added = .error e) :
    e = ⟨name, (kind.forbids? .addParameters).getD .oneParameter⟩ := by
  unfold FunctionKind.checkParameterCount FunctionKind.checkAllowed at h
  split at h
  · cases h
  · cases hforbids : kind.forbids? .addParameters with
    | some rule =>
      rw [hforbids] at h
      cases h
      rfl
    | none =>
      rw [hforbids] at h
      obtain hfirst | ⟨_, -, hcount⟩ := bind_eq_error_iff.1 h
      · cases hfirst
      · split at hcount
        · cases hcount
          rfl
        · cases hcount

/-- Parameters are refused for one fault, however many there are. -/
theorem addParameters_eq_error {ps : List Parameter} {e : Fault}
    (h : d.addParameters ps = .error e) : e = d.parametersFault := by
  obtain hcheck | ⟨_, -, hadded⟩ := bind_eq_error_iff.1 h
  · obtain ⟨e', he', rfl⟩ := mapError_eq_error_iff.1 hcheck
    rw [checkParameterCount_eq_error he']
    rfl
  · cases hadded

/-- Parameters fit in two batches if they fit in one. -/
theorem takesParameters_append {ps qs : List Parameter} :
    d.TakesParameters (ps ++ qs).length ↔ d.TakesParameters ps.length ∧
      ({ d with signature := d.signature.addParameters ps } :
        FunctionDraft).TakesParameters qs.length := by
  have hkind : ({ d with signature := d.signature.addParameters ps } : FunctionDraft).kind =
    d.kind := rfl
  have hlength : (d.signature.addParameters ps).parameters.length =
      d.signature.parameters.length + ps.length := by
    simp [Signature.addParameters]
  unfold TakesParameters
  rw [hkind, hlength, List.length_append]
  by_cases hforbids : d.kind.forbids? .addParameters = none
  · by_cases hone : d.kind.takesOneParameter = true
    · simp only [hforbids, hone, true_and]
      omega
    · simp [hone, hforbids]
  · simp only [hforbids, false_and, or_false]
    omega

/-- Parameters are added in batches. -/
theorem batched_parameters : Batched .addParameters addParameters parametersFault where
  call _ _ := rfl
  accepted := by
    intro d d'' ps qs
    simp only [addParameters_eq_ok_iff, takesParameters_append, Signature.addParameters_append]
    constructor
    · rintro ⟨⟨hfirst, hsecond⟩, rfl⟩
      exact ⟨_, ⟨hfirst, rfl⟩, hsecond, rfl⟩
    · rintro ⟨_, ⟨hfirst, rfl⟩, hsecond, rfl⟩
      exact ⟨⟨hfirst, hsecond⟩, rfl⟩
  refused := addParameters_eq_error
  kept h := by
    obtain ⟨-, rfl⟩ := addParameters_eq_ok_iff.1 h
    rfl

/-! ## Single additions -/

/-- A parameter is added alone as in a batch of one, however it is given. -/
theorem call_addParameter {source : ParameterSource} {p : Parameter}
    (h : source.toParameter = .ok p) (d : FunctionDraft) :
    d.call (.addParameter source) = d.call (.addParameters [p]) := by
  rw [call, call, addParameter, h]
  rfl

/-- Parameters are added one by one as in batches of one, however they are given. -/
theorem addParameter_each {sources : List ParameterSource} {ps : List Parameter}
    (h : List.Forall₂ (fun source p => source.toParameter = .ok p) sources ps) (d : FunctionDraft) :
    d.run (sources.map .addParameter) = d.run (ps.map fun p => .addParameters [p]) ∧
      d.outcomes (sources.map .addParameter) = d.outcomes (ps.map fun p => .addParameters [p]) := by
  induction h generalizing d with
  | nil => exact ⟨rfl, rfl⟩
  | cons hfirst _ ih =>
    obtain ⟨hrun, houtcomes⟩ := ih (d.call (.addParameters [_])).1
    simp only [List.map_cons, run_cons, outcomes, call_addParameter hfirst]
    exact ⟨hrun, congrArg _ houtcomes⟩

/-- A batch of parameters does what the parameters do one by one, however they are given. -/
theorem gathers_addParameter (d : FunctionDraft) {sources : List ParameterSource}
    {ps : List Parameter} (h : sources.mapM ParameterSource.toParameter = .ok ps) (hps : ps ≠ []) :
    d.Gathers (.addParameters ps) (sources.map .addParameter) := by
  obtain ⟨hrun, houtcomes⟩ := addParameter_each (mapM_eq_ok_iff.1 h) d
  obtain ⟨haccepted, hsame, hfault, hunchanged⟩ := batched_parameters.gathers_each d hps
  rw [← hrun] at hsame
  rw [← houtcomes] at haccepted hfault
  exact ⟨haccepted, hsame, hfault, hunchanged⟩

/-! ## Batches, pieces and single additions -/

/-- On any draft, a batch of parameters or of generic parameters does what the two batches do that
it is cut into, and what its items do that are added one by one. An accepted batch of generic
parameters adds those that are not there yet, each where it first occurs. -/
theorem batch_gathers (d : FunctionDraft) :
    (∀ ps qs, d.Gathers (.addParameters (ps ++ qs)) [.addParameters ps, .addParameters qs]) ∧
    (∀ us vs,
      d.Gathers (.addTypeVariables (us ++ vs)) [.addTypeVariables us, .addTypeVariables vs]) ∧
    (∀ vs, (d.call (.addTypeVariables vs)).2 = none →
      (d.call (.addTypeVariables vs)).1 =
        { d with
          signature := { d.signature with
            typeVariables := d.signature.typeVariables ++
              (vs.filter fun v => v ∉ d.signature.typeVariables).eraseDups } }) ∧
    (∀ (sources : List ParameterSource) (ps : List Parameter),
      sources.mapM ParameterSource.toParameter = .ok ps → ps ≠ [] →
        d.Gathers (.addParameters ps) (sources.map .addParameter)) ∧
    ∀ vs, vs ≠ [] → d.Gathers (.addTypeVariables vs) (vs.map fun v => .addTypeVariables [v]) := by
  refine ⟨?_, ?_, ?_, ?_, ?_⟩
  · intro ps qs
    simpa using batched_parameters.gathers d ps [qs]
  · intro us vs
    simpa using batched_typeVariables.gathers d us [vs]
  · intro vs h
    exact call_addTypeVariables h
  · intro sources ps h hps
    exact d.gathers_addParameter h hps
  · intro vs hvs
    exact batched_typeVariables.gathers_each d hvs

/-- Two parameters of a setter are refused as a batch, and nothing is added. One by one the first is
added and the second refused, for the same rule. Of three generic parameters of a function, one of
them twice and one of them known, one is added. -/
theorem batch_gathers_setter :
    let value : Parameter := { name := "value", type := .int }
    let other : Parameter := { name := "other", type := .int }
    let sources : List ParameterSource := [.parameter value, .parts "other" (some .int) [] none]
    let d := Factory.setter.reach [.setThrowing true]
    let refused : Fault := .grammar ⟨"set", .oneParameter⟩
    let f := (Factory.function "load").reach [.addTypeVariables [{ name := "T" }]]
    let vs : List TypeVariable := [{ name := "U" }, { name := "T" }, { name := "U" }]
    (sources.mapM ParameterSource.toParameter = .ok [value, other] ∧
      d.Gathers (.addParameters [value, other]) (sources.map .addParameter) ∧
      d.call (.addParameters [value, other]) = (d, some refused) ∧
      d.outcomes (sources.map .addParameter) = [none, some refused] ∧
      (d.run (sources.map .addParameter)).signature.parameters = [value]) ∧
    f.Gathers (.addTypeVariables vs) (vs.map fun v => .addTypeVariables [v]) ∧
      (f.call (.addTypeVariables vs)).1.signature.typeVariables =
        [{ name := "T" }, { name := "U" }] := by
  intro value other sources d refused f vs
  have hsources : sources.mapM ParameterSource.toParameter = .ok [value, other] := rfl
  have hname : f.name = "load" := rfl
  have hallowed : f.kind.forbids? .addTypeVariables = none := by
    rw [kind, hname]
    rfl
  have haccepted : (f.call (.addTypeVariables vs)).2 = none := by
    rw [call, addTypeVariables_eq_ok_iff.2 ⟨hallowed, rfl⟩]
    rfl
  obtain ⟨-, -, -, hsetter, -⟩ := batch_gathers d
  obtain ⟨-, -, hadded, -, heach⟩ := batch_gathers f
  refine ⟨⟨hsources, hsetter sources _ hsources (by simp), rfl, rfl, rfl⟩, ?_, ?_⟩
  · exact heach vs (by simp [vs])
  · rw [hadded vs haccepted]
    rfl

end FunctionDraft

end SwiftDecl
