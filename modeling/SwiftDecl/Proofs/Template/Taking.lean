import SwiftDecl.Proofs.Outcome
import SwiftDecl.Template

/-!
# Which arguments the slots of a template take

A template is filled token by token; one lemma for each token says what it fills to. The slots ask
for arguments by their positions, counted or named (`asked`). In a block that a template gives, each
slot holds what it keeps of the argument that it asked for (`Fills`), and either all arguments have
been asked for or none has (`instantiate_fills`): a template without slots is filled whatever the
arguments.
-/

namespace SwiftDecl.Template

/-- The position from zero that the digits of a slot name. -/
def namedPosition (digits : List Char) : Nat :=
  match Text.numeral 10 digits with
  | .ok number => number.toNat - 1
  | .error _ => 0

/-- The positions of the arguments that the slots of tokens ask for, in order, if `inOrder` slots
before them have asked for the next one. -/
def askedFrom : (inOrder : Nat) → List Token → List Nat
  | _, [] => []
  | inOrder, .slot _ digits :: ts =>
    if digits.isEmpty then inOrder :: askedFrom (inOrder + 1) ts
    else namedPosition digits :: askedFrom inOrder ts
  | inOrder, .text _ :: ts => askedFrom inOrder ts
  | inOrder, .directive _ :: ts => askedFrom inOrder ts
  | inOrder, .malformed _ :: ts => askedFrom inOrder ts

/-- The positions, from zero, of the arguments that the slots of a template ask for, in order. -/
def asked (format : String) : List Nat :=
  askedFrom 0 (tokens format)

/-- The slots among the parts hold what they keep of the arguments at the positions, in order. -/
inductive Fills (arguments : List Argument) : List Part → (kept : List Argument) →
    (positions : List Nat) → Prop where
  | nil : Fills arguments [] [] []
  | text {parts : List Part} {kept : List Argument} {positions : List Nat} (s : String) :
      Fills arguments parts kept positions → Fills arguments (.text s :: parts) kept positions
  | directive {parts : List Part} {kept : List Argument} {positions : List Nat} (d : Directive) :
      Fills arguments parts kept positions → Fills arguments (.directive d :: parts) kept positions
  | slot {parts : List Part} {kept : List Argument} {positions : List Nat} {s : Slot}
      {position : Nat} {a converted : Argument} :
      arguments[position]? = some a → s.convert a = .ok converted →
        Fills arguments parts kept positions →
          Fills arguments (.slot s :: parts) (converted :: kept) (position :: positions)

/-- Filled parts one after the other hold the arguments one after the other. -/
theorem Fills.append {arguments kept kept' : List Argument} {parts parts' : List Part}
    {positions positions' : List Nat} (h : Fills arguments parts kept positions)
    (h' : Fills arguments parts' kept' positions') :
    Fills arguments (parts ++ parts') (kept ++ kept') (positions ++ positions') := by
  induction h with
  | nil => exact h'
  | text s _ ih => exact .text s ih
  | directive d _ ih => exact .directive d ih
  | slot ha hconverted _ ih => exact .slot ha hconverted ih

/-! ## One slot after the other -/

namespace Taken

variable {format : String} {received position : Nat} {taken next : Taken} {slot : Slot}
  {digits : List Char}

/-- The argument at a position has been taken. -/
def Has (taken : Taken) (position : Nat) : Prop :=
  position < taken.inOrder ∨ position ∈ taken.byPosition

/-- The arguments have been taken in one of the two ways only. -/
def OneWay (taken : Taken) : Prop :=
  taken.inOrder = 0 ∨ taken.byPosition = []

/-- A slot takes the next argument, or the one whose position it names, in the way of the slots
before it. -/
theorem next_eq_ok (h : taken.next format received slot digits = .ok (position, next)) :
    position < received ∧
      ((digits.isEmpty = true ∧ taken.byPosition = [] ∧ position = taken.inOrder ∧
          next = { taken with inOrder := taken.inOrder + 1 }) ∨
        (digits.isEmpty = false ∧ taken.inOrder = 0 ∧ position = namedPosition digits ∧
          next = { taken with byPosition := position :: taken.byPosition })) := by
  unfold Taken.next at h
  cases hdigits : digits.isEmpty with
  | true =>
    -- No number: the next argument in order, which has to be there.
    rw [if_pos hdigits] at h
    by_cases hmissing : received ≤ taken.inOrder
    · rw [if_pos hmissing] at h
      cases h
    · rw [if_neg hmissing] at h
      by_cases hway : taken.byPosition.isEmpty = true
      · rw [if_pos hway] at h
        cases h
        exact ⟨Nat.not_le.1 hmissing, .inl ⟨rfl, List.isEmpty_iff.1 hway, rfl, rfl⟩⟩
      · rw [if_neg hway] at h
        cases h
  | false =>
    -- A number: the position has to be that of an argument.
    rw [if_neg (by simp [hdigits])] at h
    cases hnumber : Text.numeral 10 digits with
    | error fault =>
      rw [hnumber] at h
      cases h
    | ok number =>
      simp only [hnumber] at h
      by_cases hrange : number.toNat = 0 ∨ received < number.toNat
      · rw [if_pos hrange] at h
        cases h
      · rw [if_neg hrange] at h
        by_cases hway : taken.inOrder = 0
        · rw [if_pos hway] at h
          cases h
          -- Positions in a template count from one.
          have hnamed : namedPosition digits = number.toNat - 1 := by
            rw [namedPosition, hnumber]
          exact ⟨by omega, .inr ⟨rfl, hway, hnamed.symm, rfl⟩⟩
        · rw [if_neg hway] at h
          cases h

/-- A slot that takes an argument leaves all arguments taken in one way. -/
theorem oneWay_of_next (h : taken.next format received slot digits = .ok (position, next)) :
    next.OneWay := by
  rcases (next_eq_ok h).2 with ⟨-, hnone, -, rfl⟩ | ⟨-, hnone, -, rfl⟩
  · exact .inr hnone
  · exact .inl hnone

/-- After a slot, the argument that it took is taken, and those before it. -/
theorem has_next_iff (h : taken.next format received slot digits = .ok (position, next)) {i : Nat} :
    next.Has i ↔ taken.Has i ∨ i = position := by
  unfold Has
  rcases (next_eq_ok h).2 with ⟨-, hnone, rfl, rfl⟩ | ⟨-, hnone, -, rfl⟩
  · simp only [hnone, List.not_mem_nil, or_false]
    omega
  · simp only [List.mem_cons]
    constructor
    · rintro (hbefore | rfl | hbefore)
      · exact .inl (.inl hbefore)
      · exact .inr rfl
      · exact .inl (.inr hbefore)
    · rintro ((hbefore | hbefore) | rfl)
      · exact .inl hbefore
      · exact .inr (.inr hbefore)
      · exact .inr (.inl rfl)

/-- A slot asks for the argument that it takes, and the slots after it go on from there. -/
theorem askedFrom_next (h : taken.next format received slot digits = .ok (position, next))
    (ts : List Token) :
    askedFrom taken.inOrder (.slot slot digits :: ts) = position :: askedFrom next.inOrder ts := by
  rcases (next_eq_ok h).2 with ⟨hdigits, -, rfl, rfl⟩ | ⟨hdigits, -, rfl, rfl⟩
  · simp [askedFrom, hdigits]
  · simp [askedFrom, hdigits]

/-- The final check finds nothing left over if all arguments have been taken, or if there has been
no slot at all. -/
theorem check_eq_ok_iff (hway : taken.OneWay) :
    taken.check format received = .ok () ↔
      (∀ i < received, taken.Has i) ∨ (taken.inOrder = 0 ∧ taken.byPosition = []) := by
  unfold check Has
  rcases hway with hnone | hnone
  · -- No slot has asked for the next argument, so all depends on the positions that are named.
    rw [if_neg (by omega)]
    cases hpositions : taken.byPosition with
    | nil => simp [hnone]
    | cons first rest =>
      simp only [List.isEmpty_cons, Bool.false_eq_true, if_false, hnone, Nat.not_lt_zero, false_or,
        reduceCtorEq, and_false, or_false]
      -- The check looks for a position that no slot names.
      have hleft : ((List.range received).filter fun i => i ∉ first :: rest) = [] ↔
          ∀ i < received, i ∈ first :: rest := by
        simp only [List.filter_eq_nil_iff, List.mem_range, decide_eq_true_eq, Decidable.not_not]
      rw [← hleft]
      cases (List.range received).filter fun i => i ∉ first :: rest <;> simp
  · -- No position is named, so the first arguments are taken, as many as there are slots.
    simp only [hnone, List.isEmpty_nil, if_true, List.not_mem_nil, or_false, and_true]
    -- Some slots, but fewer than arguments: the first of the others is left over.
    by_cases hfew : 0 < taken.inOrder ∧ taken.inOrder < received
    · rw [if_pos hfew]
      simp only [reduceCtorEq, false_iff]
      rintro (hall | hzero)
      · exact Nat.lt_irrefl _ (hall taken.inOrder hfew.2)
      · omega
    · rw [if_neg hfew]
      simp only [true_iff]
      by_cases hzero : taken.inOrder = 0
      · exact .inr hzero
      · exact .inl fun i hi => by omega

end Taken

/-! ## One token after the other -/

section Tokens

variable {format : String} {arguments : List Argument} {taken taken' : Taken} {c : Code}

/-- A text fills to itself, before what the other tokens fill to. -/
theorem fillTokens_text_iff {chars : List Char} {ts : List Token} :
    fillTokens format arguments taken (.text chars :: ts) = .ok (c, taken') ↔
      ∃ rest, fillTokens format arguments taken ts = .ok (rest, taken') ∧
        c = { rest with parts := .text (String.ofList chars) :: rest.parts } := by
  simp only [fillTokens, bind_eq_ok_iff, pure_eq_ok_iff]
  constructor
  · rintro ⟨⟨rest, _⟩, hrest, hc⟩
    cases hc
    exact ⟨rest, hrest, rfl⟩
  · rintro ⟨rest, hrest, rfl⟩
    exact ⟨(rest, taken'), hrest, rfl⟩

/-- A directive fills to itself, before what the other tokens fill to. -/
theorem fillTokens_directive_iff {d : Directive} {ts : List Token} :
    fillTokens format arguments taken (.directive d :: ts) = .ok (c, taken') ↔
      ∃ rest, fillTokens format arguments taken ts = .ok (rest, taken') ∧
        c = { rest with parts := .directive d :: rest.parts } := by
  simp only [fillTokens, bind_eq_ok_iff, pure_eq_ok_iff]
  constructor
  · rintro ⟨⟨rest, _⟩, hrest, hc⟩
    cases hc
    exact ⟨rest, hrest, rfl⟩
  · rintro ⟨rest, hrest, rfl⟩
    exact ⟨(rest, taken'), hrest, rfl⟩

/-- A slot takes an argument and fills to itself with what it keeps of it, before what the other
tokens fill to. -/
theorem fillTokens_slot_iff {s : Slot} {digits : List Char} {ts : List Token} :
    fillTokens format arguments taken (.slot s digits :: ts) = .ok (c, taken') ↔
      ∃ position next converted rest,
        taken.next format arguments.length s digits = .ok (position, next) ∧
        s.convert (arguments.getD position .null) = .ok converted ∧
        fillTokens format arguments next ts = .ok (rest, taken') ∧
        c = { parts := .slot s :: rest.parts, arguments := converted :: rest.arguments } := by
  simp only [fillTokens, bind_eq_ok_iff, pure_eq_ok_iff]
  constructor
  · rintro ⟨⟨position, next⟩, hnext, converted, hconverted, ⟨rest, _⟩, hrest, hc⟩
    cases hc
    exact ⟨position, next, converted, rest, hnext, hconverted, hrest, rfl⟩
  · rintro ⟨position, next, converted, rest, hnext, hconverted, hrest, rfl⟩
    exact ⟨(position, next), hnext, converted, hconverted, (rest, taken'), hrest, rfl⟩

theorem fillTokens_malformed {m : Malformed} {ts : List Token} :
    fillTokens format arguments taken (.malformed m :: ts) ≠ .ok (c, taken') := by
  simp [fillTokens]

end Tokens

section NamedTokens

variable {format : String} {arguments : List (String × Argument)} {c : Code}

theorem fillNamed_text_iff {chars : List Char} {ts : List NamedToken} :
    fillNamed format arguments (.text chars :: ts) = .ok c ↔
      ∃ rest, fillNamed format arguments ts = .ok rest ∧
        c = { rest with parts := .text (String.ofList chars) :: rest.parts } := by
  simp only [fillNamed, bind_eq_ok_iff, pure_eq_ok_iff]

theorem fillNamed_directive_iff {d : Directive} {ts : List NamedToken} :
    fillNamed format arguments (.directive d :: ts) = .ok c ↔
      ∃ rest, fillNamed format arguments ts = .ok rest ∧
        c = { rest with parts := .directive d :: rest.parts } := by
  simp only [fillNamed, bind_eq_ok_iff, pure_eq_ok_iff]

/-- A slot with a name takes the argument of the name, and fills as any other. -/
theorem fillNamed_slot_iff {name : List Char} {letter : Char} {ts : List NamedToken} :
    fillNamed format arguments (.slot letter name :: ts) = .ok c ↔
      ∃ a s converted rest, lookup arguments (String.ofList name) = some a ∧
        Slot.ofLetter? letter = some s ∧ s.convert a = .ok converted ∧
        fillNamed format arguments ts = .ok rest ∧
        c = { parts := .slot s :: rest.parts, arguments := converted :: rest.arguments } := by
  rw [fillNamed]
  cases lookup arguments (String.ofList name) with
  | none => simp
  | some a =>
    cases Slot.ofLetter? letter with
    | none => simp
    | some s =>
      simp only [bind_eq_ok_iff, pure_eq_ok_iff]
      constructor
      · rintro ⟨converted, hconverted, rest, hrest, rfl⟩
        exact ⟨a, s, converted, rest, rfl, rfl, hconverted, hrest, rfl⟩
      · rintro ⟨_, _, converted, rest, ⟨⟩, ⟨⟩, hconverted, hrest, rfl⟩
        exact ⟨converted, hconverted, rest, hrest, rfl⟩

theorem fillNamed_malformed {m : NamedMalformed} {ts : List NamedToken} :
    fillNamed format arguments (.malformed m :: ts) ≠ .ok c := by
  simp [fillNamed]

end NamedTokens

/-! ## All slots -/

section Fill

variable {format : String} {arguments : List Argument} {taken taken' : Taken} {c : Code}

/-- Filled tokens hold the arguments that they ask for, and these are the ones that are taken. -/
theorem fillTokens_fills {ts : List Token} (hway : taken.OneWay)
    (h : fillTokens format arguments taken ts = .ok (c, taken')) :
    Fills arguments c.parts c.arguments (askedFrom taken.inOrder ts) ∧ taken'.OneWay ∧
      ∀ i, taken'.Has i ↔ taken.Has i ∨ i ∈ askedFrom taken.inOrder ts := by
  induction ts generalizing taken c with
  | nil =>
    cases h
    exact ⟨.nil, hway, fun i => by simp [askedFrom]⟩
  | cons t ts ih =>
    cases t with
    | text chars =>
      obtain ⟨rest, hrest, rfl⟩ := fillTokens_text_iff.1 h
      obtain ⟨hfills, hlater⟩ := ih hway hrest
      exact ⟨.text _ hfills, hlater⟩
    | directive d =>
      obtain ⟨rest, hrest, rfl⟩ := fillTokens_directive_iff.1 h
      obtain ⟨hfills, hlater⟩ := ih hway hrest
      exact ⟨.directive d hfills, hlater⟩
    | slot s digits =>
      obtain ⟨position, next, converted, rest, hnext, hconverted, hrest, rfl⟩ :=
        fillTokens_slot_iff.1 h
      -- The position is that of an argument, so the slot holds what it keeps of it.
      have hlt : position < arguments.length := (Taken.next_eq_ok hnext).1
      have hget : arguments[position]? = some (arguments.getD position .null) := by
        simp [hlt]
      obtain ⟨hfills, hlaterWay, hlater⟩ := ih (Taken.oneWay_of_next hnext) hrest
      rw [Taken.askedFrom_next hnext]
      refine ⟨.slot hget hconverted hfills, hlaterWay, fun i => ?_⟩
      rw [hlater, Taken.has_next_iff hnext, List.mem_cons, or_assoc]
    | malformed m => exact absurd h fillTokens_malformed

/-- A template that is filled has each of its slots hold what it keeps of the argument that it asks
for. Either all arguments are asked for, or the template has no slots. -/
theorem instantiate_fills (h : instantiate format arguments = .ok c) :
    Fills arguments c.parts c.arguments (asked format) ∧
      ((∀ i < arguments.length, i ∈ asked format) ∨ asked format = []) := by
  simp only [instantiate, bind_eq_ok_iff, pure_eq_ok_iff] at h
  obtain ⟨⟨filled, taken⟩, hfilled, _, hcheck, rfl⟩ := h
  have hnone : Taken.OneWay {} := .inl rfl
  obtain ⟨hfills, hway, htaken⟩ := fillTokens_fills hnone hfilled
  -- What is taken in the end is what the template asks for.
  have hasked (i : Nat) : taken.Has i ↔ i ∈ asked format := by
    rw [htaken i]
    simp [Taken.Has, asked]
  refine ⟨hfills, ?_⟩
  rcases (Taken.check_eq_ok_iff hway).1 hcheck with hall | ⟨hcount, hpositions⟩
  · exact .inl fun i hi => (hasked i).1 (hall i hi)
  · -- Nothing has been taken, so nothing is asked for.
    right
    rw [List.eq_nil_iff_forall_not_mem]
    intro i hi
    rcases (hasked i).2 hi with hbefore | hnamed
    · rw [hcount] at hbefore
      exact absurd hbefore (Nat.not_lt_zero i)
    · rw [hpositions] at hnamed
      cases hnamed

end Fill

end SwiftDecl.Template
