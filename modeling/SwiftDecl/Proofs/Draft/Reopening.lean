import SwiftDecl.Proofs.Draft.Grammar

/-!
# Reopening a built function

A draft that has been built can be reopened, and what comes back is the draft without its local
types. That the way there and back loses nothing else rests on two facts about reached drafts:
their generic parameters are distinct, so building the signature anew keeps them all, and an
abstract function has no parts in its body, which is not kept for it. Arguments without parts are
possible only in a block that is put together by hand, and these are lost with an abstract body.
-/

namespace SwiftDecl.FunctionDraft

variable {d : FunctionDraft}

/-- The body that a function keeps: none if it is abstract. -/
def keptBody (d : FunctionDraft) : Code :=
  if d.isAbstract then {} else d.body

/-- A reopened draft is the draft without its local types, with the body that was kept. -/
theorem ofFunction_toFunction (h : d.signature.typeVariables.Nodup) :
    ofFunction d.toFunction = { d with localTypes := [], body := d.keptBody } := by
  have hsignature : d.signature.reopened = d.signature := Signature.reopened_eq_self h
  unfold ofFunction toFunction keptBody
  cases habstract : d.isAbstract with
  | true => simp [hsignature]
  | false => simp [hsignature]

/-- An abstract draft that is grammatical keeps its body exactly if there are no arguments in
it. -/
theorem Grammatical.keptBody_eq_iff (h : d.Grammatical) :
    d.keptBody = d.body ↔ (d.isAbstract = true → d.body.arguments = []) := by
  unfold keptBody
  cases habstract : d.isAbstract with
  | false => simp
  | true =>
    have hparts : d.body.parts = [] := h.abstract_body habstract
    simp only [↓reduceIte, true_implies]
    constructor
    · intro hsame
      rw [← hsame]
    · intro harguments
      exact Code.eq_of_fields hparts.symm harguments.symm

/-- An aligned body without parts has no arguments. -/
theorem Grammatical.no_stray_arguments (h : d.Grammatical) (hbody : d.body.Aligned)
    (habstract : d.isAbstract = true) : d.body.arguments = [] := by
  have hcount : d.body.parts.countP Part.isSlot = d.body.arguments.length := hbody
  rw [h.abstract_body habstract] at hcount
  exact List.length_eq_zero_iff.1 hcount.symm

/-- Every reached draft can be built. Reopened, it is the draft without its local types and with
the body that was kept. Nothing but the local types is lost exactly if the draft is not abstract
or has no arguments in its body, and so always if the calls brought in built blocks only. Without
local types, the reopened draft then goes on as the draft itself does. -/
theorem reopened_eq_without_localTypes (factory : Factory) (calls : List DraftCall) :
    let b := factory.reach calls
    ∃ f, b.build = .ok f ∧
      ofFunction f = { b with localTypes := [], body := b.keptBody } ∧
      (ofFunction f = { b with localTypes := [] } ↔
        (b.isAbstract = true → b.body.arguments = [])) ∧
      ((∀ c ∈ calls, c.BlocksBuilt) → ofFunction f = { b with localTypes := [] }) ∧
      (b.localTypes = [] → (b.isAbstract = true → b.body.arguments = []) →
        ∀ more, (ofFunction f).run more = b.run more ∧
          (ofFunction f).outcomes more = b.outcomes more) := by
  intro b
  have hgrammatical : b.Grammatical := grammatical_of_reach factory calls
  have hreopened : ofFunction b.toFunction = { b with localTypes := [], body := b.keptBody } :=
    ofFunction_toFunction hgrammatical.typeVariables_nodup
  -- The two drafts differ at most in the body, and there only in stray arguments.
  have hexact : ofFunction b.toFunction = { b with localTypes := [] } ↔
      (b.isAbstract = true → b.body.arguments = []) := by
    rw [← hgrammatical.keptBody_eq_iff, hreopened]
    constructor
    · exact congrArg FunctionDraft.body
    · intro hbody
      rw [hbody]
  refine ⟨b.toFunction, hgrammatical.build_eq, hreopened, hexact, ?_, ?_⟩
  · -- Where all blocks are built, no argument is stray.
    intro hbuilt
    exact hexact.2 (hgrammatical.no_stray_arguments (aligned_of_reach factory calls hbuilt).2)
  · intro hlocal hstray more
    have hsame : ofFunction b.toFunction = b := by
      rw [hexact.2 hstray, ← hlocal]
    rw [hsame]
    exact ⟨rfl, rfl⟩

/-- An abstract function that is generic in one type, added twice, is reopened as it was drafted,
and a statement is refused on both drafts alike. -/
theorem reopened_abstract_goes_on :
    let calls : List DraftCall := [
      .addTypeVariables [{ name := "T" }, { name := "T" }],
      .setAbstract true,
      .setThrowing true]
    let b := (Factory.function "load").reach calls
    ∃ f, b.build = .ok f ∧ ofFunction f = b ∧
      (ofFunction f).outcomes [.addStatement "return" []] =
        [some (.grammar ⟨"load", .abstractWithCode⟩)] := by
  intro calls b
  have hlocal : b.localTypes = [] := rfl
  have hstray : b.isAbstract = true → b.body.arguments = [] := fun _ => rfl
  obtain ⟨f, hbuilt, _, hexact, _, hon⟩ := reopened_eq_without_localTypes (.function "load") calls
  have hsame : ofFunction f = { b with localTypes := [] } := hexact.2 hstray
  refine ⟨f, hbuilt, ?_, ?_⟩
  · rw [hsame, ← hlocal]
  · rw [(hon hlocal hstray [.addStatement "return" []]).2]
    rfl

/-- Reopening can lose more than local types: an argument without a slot, which only a block put
together by hand has, is gone from the body of an abstract function. -/
theorem reopened_loses_stray_arguments :
    ¬ ∀ (factory : Factory) (calls : List DraftCall),
      ∃ f, (factory.reach calls).build = .ok f ∧
        ofFunction f = { factory.reach calls with localTypes := [] } := by
  intro hlossless
  obtain ⟨f, hbuilt, hsame⟩ := hlossless (.function "f")
    [.addCode (.block { parts := [], arguments := [.text "x"] } []), .setAbstract true]
  cases hbuilt
  have harguments := congrArg (fun d : FunctionDraft => d.body.arguments.length) hsame
  cases harguments

end SwiftDecl.FunctionDraft
