import SwiftDecl.Proofs.Code.Building
import SwiftDecl.Proofs.Template.Taking

/-!
# Slots and arguments of built blocks

A block is written by giving each of its slots the next argument, so the slots of its parts have
to be as many as its arguments. The type of blocks does not say so: `Code.Aligned` does. Blocks
that come out of the operations are aligned (`Built.aligned`), since each of their slots holds what
it keeps of some argument (`Code.Holds`): a slot for types holds a type and a slot for names a
text. All operations append filled templates and parts without slots, so what holds of these two
holds of all built blocks (`Built.of_pieces`).
-/

namespace SwiftDecl.Code

/-- The block has one argument for each of its slots. -/
def Aligned (c : Code) : Prop :=
  c.parts.countP Part.isSlot = c.arguments.length

theorem aligned_empty : ({} : Code).Aligned := rfl

/-- Aligned blocks one after the other are aligned. -/
theorem Aligned.append {a b : Code} (ha : a.Aligned) (hb : b.Aligned) : (a ++ b).Aligned := by
  unfold Aligned at ha hb ⊢
  simp [List.countP_append, ha, hb]

/-! ## What slots hold -/

/-- Each slot among the parts holds what it keeps of some argument. -/
inductive Holds : List Part → (kept : List Argument) → Prop where
  | nil : Holds [] []
  | text {parts : List Part} {kept : List Argument} (s : String) :
      Holds parts kept → Holds (.text s :: parts) kept
  | directive {parts : List Part} {kept : List Argument} (d : Directive) :
      Holds parts kept → Holds (.directive d :: parts) kept
  | slot {parts : List Part} {kept : List Argument} {s : Slot} {a converted : Argument} :
      s.convert a = .ok converted → Holds parts kept →
        Holds (.slot s :: parts) (converted :: kept)

theorem Holds.append {parts parts' : List Part} {kept kept' : List Argument} (h : Holds parts kept)
    (h' : Holds parts' kept') : Holds (parts ++ parts') (kept ++ kept') := by
  induction h with
  | nil => exact h'
  | text s _ ih => exact .text s ih
  | directive d _ ih => exact .directive d ih
  | slot hconverted _ ih => exact .slot hconverted ih

/-- Parts without slots hold nothing. -/
theorem holds_nothing {parts : List Part} (h : ∀ p ∈ parts, p.isSlot = false) : Holds parts [] := by
  induction parts with
  | nil => exact .nil
  | cons p parts ih =>
    have hrest := ih fun q hq => h q (List.mem_cons_of_mem p hq)
    cases p with
    | text s => exact .text s hrest
    | directive d => exact .directive d hrest
    | slot s => cases h _ List.mem_cons_self

/-- The slots of a filled template hold what they keep of its arguments. -/
theorem holds_of_fills {arguments kept : List Argument} {parts : List Part} {positions : List Nat}
    (h : Template.Fills arguments parts kept positions) : Holds parts kept := by
  induction h with
  | nil => exact .nil
  | text s _ ih => exact .text s ih
  | directive d _ ih => exact .directive d ih
  | slot _ hconverted _ ih => exact .slot hconverted ih

/-- The slots of a filled template with named arguments hold what they keep of them. -/
theorem holds_of_fillNamed {format : String} {arguments : List (String × Argument)}
    {ts : List Template.NamedToken} {c : Code}
    (h : Template.fillNamed format arguments ts = .ok c) : Holds c.parts c.arguments := by
  induction ts generalizing c with
  | nil =>
    cases h
    exact .nil
  | cons t ts ih =>
    cases t with
    | text front =>
      obtain ⟨rest, hrest, rfl⟩ := Template.fillNamed_text_iff.1 h
      exact .text _ (ih hrest)
    | directive d =>
      obtain ⟨rest, hrest, rfl⟩ := Template.fillNamed_directive_iff.1 h
      exact .directive d (ih hrest)
    | slot letter name =>
      obtain ⟨a, s, converted, rest, -, -, hconverted, hrest, rfl⟩ :=
        Template.fillNamed_slot_iff.1 h
      exact .slot hconverted (ih hrest)
    | malformed m => exact absurd h Template.fillNamed_malformed

/-- What the slots of a filled template hold. -/
theorem instantiate_holds {format : String} {arguments : List Argument} {c : Code}
    (h : Template.instantiate format arguments = .ok c) : Holds c.parts c.arguments :=
  holds_of_fills (Template.instantiate_fills h).1

/-- What the slots of a filled template with named arguments hold. -/
theorem instantiateNamed_holds {format : String} {arguments : List (String × Argument)} {c : Code}
    (h : Template.instantiateNamed format arguments = .ok c) : Holds c.parts c.arguments := by
  unfold Template.instantiateNamed at h
  split at h
  · cases h
  · exact holds_of_fillNamed h

/-- Where each slot holds something, the slots are as many as what is held. -/
theorem Holds.countP_eq {parts : List Part} {kept : List Argument} (h : Holds parts kept) :
    parts.countP Part.isSlot = kept.length := by
  induction h with
  | nil => rfl
  | text s _ ih => simpa [Part.isSlot] using ih
  | directive d _ ih => simpa [Part.isSlot] using ih
  | @slot _ _ s _ _ _ _ ih =>
    have hslot : (Part.slot s).isSlot = true := rfl
    rw [List.countP_cons_of_pos hslot, ih, List.length_cons]

/-! ## Alignment of what the operations append -/

/-- Without slots and without arguments a block is aligned. -/
theorem aligned_ofParts {parts : List Part} (h : ∀ p ∈ parts, p.isSlot = false) :
    (ofParts parts).Aligned :=
  (holds_nothing h).countP_eq

/-- What closes a branch has no slots. -/
theorem branchEnd_aligned : branchEnd.Aligned :=
  aligned_ofParts (by simp [Part.isSlot])

/-- The block of a template is aligned. -/
theorem instantiate_aligned {format : String} {arguments : List Argument} {c : Code}
    (h : Template.instantiate format arguments = .ok c) : c.Aligned :=
  (instantiate_holds h).countP_eq

/-- The block of a template with named arguments is aligned. -/
theorem instantiateNamed_aligned {format : String} {arguments : List (String × Argument)}
    {c : Code} (h : Template.instantiateNamed format arguments = .ok c) : c.Aligned :=
  (instantiateNamed_holds h).countP_eq

/-! ## Joined blocks

A separator stands for itself: its percent signs are doubled, and it is added as a template without
arguments. -/

/-- A character put in front of a text token is put in front of its part. -/
theorem fillTokens_glue {format : String} {arguments : List Argument}
    {taken taken' : Template.Taken} {ts : List Template.Token} {filled : Code} (c : Char)
    (h : Template.fillTokens format arguments taken ts = .ok (filled, taken')) :
    Template.fillTokens format arguments taken (Template.TokenOf.glue c ts) =
      .ok ({ filled with parts := Template.gluePart c filled.parts }, taken') := by
  cases ts with
  | nil =>
    cases h
    rfl
  | cons t ts =>
    cases t with
    | text chars =>
      obtain ⟨rest, hrest, rfl⟩ := Template.fillTokens_text_iff.1 h
      refine Template.fillTokens_text_iff.2 ⟨rest, hrest, ?_⟩
      simp [Template.gluePart]
    | directive d =>
      obtain ⟨rest, -, rfl⟩ := Template.fillTokens_directive_iff.1 h
      exact Template.fillTokens_text_iff.2 ⟨_, h, rfl⟩
    | slot s digits =>
      obtain ⟨_, _, converted, rest, -, -, -, rfl⟩ := Template.fillTokens_slot_iff.1 h
      exact Template.fillTokens_text_iff.2 ⟨_, h, rfl⟩
    | malformed m => exact absurd h Template.fillTokens_malformed

/-- A text with doubled percent signs fills to the parts of the text. -/
theorem fillTokens_escaped (format : String) (arguments : List Argument)
    (taken : Template.Taken) (cs : List Char) :
    Template.fillTokens format arguments taken
        (Template.Token.scan none (cs.flatMap fun c => if c = '%' then ['%', '%'] else [c])) =
      .ok (ofParts (Template.plainParts cs), taken) := by
  induction cs with
  | nil => rfl
  | cons c cs ih =>
    by_cases hc : c = '%'
    · have hdigit : Text.isDigit '%' = false := by decide
      subst hc
      simp only [List.flatMap_cons, ↓reduceIte, List.cons_append, List.nil_append,
        Template.Token.scan, hdigit, Slot.ofLetter?, Directive.ofLetter?, List.isEmpty_nil,
        Bool.false_eq_true, Template.plainParts]
      exact Template.fillTokens_directive_iff.2 ⟨_, ih, rfl⟩
    · simp only [List.flatMap_cons, hc, ↓reduceIte, List.cons_append, List.nil_append,
        Template.Token.scan, Template.plainParts]
      exact fillTokens_glue c ih

/-- A text with doubled percent signs is the template of the text. -/
theorem instantiate_escapePercent (s : String) :
    Template.instantiate (Template.escapePercent s) [] = .ok (plain s) := by
  have hfill : Template.fillTokens (Template.escapePercent s) [] {}
      (Template.tokens (Template.escapePercent s)) = .ok (plain s, {}) := by
    rw [Template.tokens, Template.escapePercent, String.toList_ofList]
    exact fillTokens_escaped _ [] {} s.toList
  simp only [Template.instantiate, bind_eq_ok_iff, pure_eq_ok_iff]
  exact ⟨_, hfill, (), rfl, rfl⟩

/-- What holds of nothing, and of two blocks in turn if of each, holds of joined blocks if it holds
of each of them and of the separator. -/
theorem join_of_each {P : Code → Prop} (empty : P {})
    (append : ∀ {a b : Code}, P a → P b → P (a ++ b)) {separator : String}
    (hplain : P (plain separator)) {blocks : List Code} (h : ∀ c ∈ blocks, P c) :
    P (join blocks separator) := by
  have hrest : ∀ cs : List Code, (∀ c ∈ cs, P c) → P (joinRest (plain separator) cs) := by
    intro cs
    induction cs with
    | nil =>
      intro _
      exact empty
    | cons c cs ih =>
      intro hcs
      have hc : P c := hcs c List.mem_cons_self
      exact append (append hplain hc) (ih fun b hb => hcs b (List.mem_cons_of_mem c hb))
  cases blocks with
  | nil => exact empty
  | cons c cs =>
    have hc : P c := h c List.mem_cons_self
    exact append hc (hrest cs fun b hb => h b (List.mem_cons_of_mem c hb))

/-! ## Built blocks -/

/-- The blocks that the operations on blocks make, accepted or refused, starting from nothing. -/
inductive Built : Code → Prop where
  | empty : Built {}
  | add {c c' : Code} {format : String} {arguments : List Argument} :
      Built c → c.add format arguments = .ok c' → Built c'
  | addNamed {c c' : Code} {format : String} {arguments : List (String × Argument)} :
      Built c → c.addNamed format arguments = .ok c' → Built c'
  | addStatement {c c' : Code} {format : String} {arguments : List Argument} :
      Built c → c.addStatement format arguments = .ok c' → Built c'
  | append {a b : Code} : Built a → Built b → Built (a ++ b)
  | join {blocks : List Code} (separator : String) :
      (∀ c ∈ blocks, Built c) → Built (join blocks separator)
  | indent {c : Code} : Built c → Built c.indent
  | unindent {c : Code} : Built c → Built c.unindent
  | beginControlFlow {c c' : Code} {name condition : String} {arguments : List Argument} :
      Built c → c.beginControlFlow name condition arguments = .ok c' → Built c'
  | nextControlFlow {c : Code} (name condition : String) (arguments : List Argument) :
      Built c → Built (c.nextControlFlow name condition arguments).1
  | endControlFlow {c : Code} : Built c → Built c.endControlFlow

/-- What holds of filled templates and of parts without slots, and of two blocks in turn if of each,
holds of all built blocks. -/
theorem Built.of_pieces {P : Code → Prop}
    (parts : ∀ parts : List Part, (∀ p ∈ parts, p.isSlot = false) → P (ofParts parts))
    (template : ∀ {format : String} {arguments : List Argument} {c : Code},
      Template.instantiate format arguments = .ok c → P c)
    (named : ∀ {format : String} {arguments : List (String × Argument)} {c : Code},
      Template.instantiateNamed format arguments = .ok c → P c)
    (append : ∀ {a b : Code}, P a → P b → P (a ++ b)) {c : Code} (h : c.Built) : P c := by
  have hindent : P (ofParts [.directive .indent]) := parts _ (by simp [Part.isSlot])
  have hbranch : P branchEnd := parts _ (by simp [Part.isSlot])
  induction h with
  | empty => exact parts [] (by simp)
  | add _ hadd ih =>
    obtain ⟨added, hadded, rfl⟩ := add_eq_ok_iff.1 hadd
    exact append ih (template hadded)
  | addNamed _ hadd ih =>
    obtain ⟨added, hadded, rfl⟩ := addNamed_eq_ok_iff.1 hadd
    exact append ih (named hadded)
  | addStatement _ hadd ih =>
    obtain ⟨added, hadded, rfl⟩ := addStatement_eq_ok_iff.1 hadd
    exact append ih (append (template hadded) (parts _ (by simp [Part.isSlot])))
  | append _ _ iha ihb => exact append iha ihb
  | join separator _ ih =>
    have hplain : P (Code.plain separator) := template (instantiate_escapePercent separator)
    exact join_of_each (parts [] (by simp)) append hplain ih
  | indent _ ih =>
    -- Shifts and closing braces are parts without slots.
    exact append ih hindent
  | unindent _ ih => exact append ih (parts _ (by simp [Part.isSlot]))
  | beginControlFlow _ hbegin ih =>
    obtain ⟨header, hheader, rfl⟩ := beginControlFlow_eq_ok_iff.1 hbegin
    exact append ih (append (template hheader) hindent)
  | @nextControlFlow c name condition arguments _ ih =>
    rcases nextControlFlow_cases c name condition arguments with
      ⟨header, hheader, hnext⟩ | ⟨e, -, hnext⟩
    · -- the header is taken
      rw [hnext]
      exact append ih (append hbranch (append (template hheader) hindent))
    · -- The header is refused, and the end of the branch before it stays.
      rw [hnext]
      exact append ih hbranch
  | endControlFlow _ ih =>
    rw [endControlFlow_eq]
    exact append ih (parts _ (by simp [Part.isSlot]))

/-- Each slot of a built block holds what it keeps of some argument. -/
theorem Built.holds {c : Code} (h : c.Built) : Holds c.parts c.arguments :=
  Built.of_pieces (P := fun c => Holds c.parts c.arguments) (fun _ => holds_nothing)
    instantiate_holds instantiateNamed_holds Holds.append h

/-- Built blocks are aligned. -/
theorem Built.aligned {c : Code} (h : c.Built) : c.Aligned :=
  h.holds.countP_eq

/-- A text that stands for itself is a built block. -/
theorem Built.plain (s : String) : (plain s).Built := by
  have hadd : ({} : Code).add (Template.escapePercent s) [] = .ok (Code.plain s) :=
    add_eq_ok_iff.2 ⟨Code.plain s, instantiate_escapePercent s, (empty_append _).symm⟩
  exact .add .empty hadd

end SwiftDecl.Code
