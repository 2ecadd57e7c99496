import SwiftDecl.Proofs.TypeName.Derivations

/-!
# Enough fuel

With more fuel than tokens the parser never runs out of it, so it fails only for a token that does
not fit. A type takes one unit for each level of nesting and one for each generic argument, and
there are tokens for each of these: brackets and commas.
-/

namespace SwiftDecl.TypeName

variable {stop fuel : Nat} {ts rest : List Token} {t : TypeName}

/-- The parser has not run out of fuel: if it fails, then for a token that does not fit. -/
def Conclusive {α : Type} (r : Except ParseError α) : Prop :=
  ∀ e, r = .error e → e.problem ≠ .nothing

/-- A value is conclusive. -/
theorem conclusive_pure {α : Type} {a : α} : Conclusive (pure a) := by
  intro e h
  cases h

/-- An error that tells what is wrong is conclusive. -/
theorem conclusive_error {α : Type} {e : ParseError} (h : e.problem ≠ .nothing) :
    Conclusive (.error e : Except ParseError α) := by
  intro e' herror
  cases herror
  exact h

/-- A sequence of conclusive steps is conclusive. -/
theorem Conclusive.bind {α β : Type} {x : Except ParseError α} {f : α → Except ParseError β}
    (hx : Conclusive x) (hf : ∀ a, x = .ok a → Conclusive (f a)) : Conclusive (x >>= f) := by
  intro e h
  cases x with
  | error e' =>
    have hfirst : e' = e := Except.error.inj h
    exact hx e (by rw [hfirst])
  | ok a => exact hf a rfl e h

/-- A mark is read without fuel. -/
theorem parseMark_conclusive (mark : Char) : Conclusive (parseMark stop mark ts) := by
  unfold parseMark
  split
  · split
    · exact conclusive_pure
    · exact conclusive_error (by simp)
  · exact conclusive_error (by simp)

/-- An identifier is read without fuel. -/
theorem parseIdentifier_conclusive : Conclusive (parseIdentifier stop ts) := by
  unfold parseIdentifier
  split
  · split
    · exact conclusive_error (by simp)
    · exact conclusive_pure
  · exact conclusive_error (by simp)

/-- Names after dots are read without fuel. -/
theorem parseNested_conclusive (ts : List Token) : Conclusive (parseNested stop ts) := by
  induction ts using parseNested.induct with
  | case1 column column' w ts ih =>
    rw [parseNested]
    apply parseIdentifier_conclusive.bind
    rintro ⟨name, _⟩ _
    apply ih.bind
    rintro ⟨names, _⟩ _
    exact conclusive_pure
  | case2 column ts hword =>
    rw [parseNested]
    · exact conclusive_error (by simp)
    · exact hword
  | case3 ts hword hdot =>
    rw [parseNested]
    · exact conclusive_pure
    · exact hword
    · exact hdot

/-- A dotted name is read without fuel. -/
theorem parseDeclared_conclusive : Conclusive (parseDeclared stop ts) := by
  unfold parseDeclared
  apply parseIdentifier_conclusive.bind
  rintro ⟨name, us⟩ _
  apply (parseNested_conclusive us).bind
  rintro ⟨names, _⟩ _
  exact conclusive_pure

/-- The fuel is enough for as many tokens as it exceeds. -/
structure Enough (stop fuel : Nat) : Prop where
  type : ∀ ts, ts.length < fuel → Conclusive (parseType stop fuel ts)
  arguments : ∀ ts, ts.length + 1 < fuel → Conclusive (parseArguments stop fuel ts)

/-- A type leaves no more tokens than there were. -/
theorem length_le_of_parseType (h : parseType stop fuel ts = .ok (t, rest)) :
    rest.length ≤ ts.length := by
  obtain ⟨us, rfl, _⟩ := (sound fuel).type h
  rw [List.length_append]
  omega

/-- A dotted name leaves fewer tokens than there were. -/
theorem length_lt_of_parseDeclared {n : DeclaredName}
    (h : parseDeclared stop ts = .ok (n, rest)) : rest.length < ts.length := by
  obtain ⟨us, rfl, hdeclared, _⟩ := parseDeclared_eq_ok_iff.1 h
  have hpositive : 0 < us.length := by
    rw [← length_lexemes]
    exact hdeclared.length_pos
  rw [List.length_append]
  omega

/-- One unit more is enough for a type with one token more. -/
theorem Enough.type_succ (henough : Enough stop fuel) (hlength : ts.length < fuel + 1) :
    Conclusive (parseType stop (fuel + 1) ts) := by
  by_cases hbracket : StartsWith '[' ts
  · -- The bracket is one token, and what is read inside leaves fewer tokens still.
    obtain ⟨column, us, rfl⟩ := hbracket
    rw [List.length_cons] at hlength
    rw [parseType]
    apply (henough.type us (by omega)).bind
    rintro ⟨first, after⟩ hfirst
    have hleft := length_le_of_parseType hfirst
    dsimp only
    split
    · next vs =>
      rw [List.length_cons] at hleft
      apply (henough.type vs (by omega)).bind
      rintro ⟨value, _⟩ _
      exact (parseMark_conclusive _).bind fun _ _ => conclusive_pure
    · exact (parseMark_conclusive _).bind fun _ _ => conclusive_pure
  · rw [parseType]
    · apply parseDeclared_conclusive.bind
      rintro ⟨raw, after⟩ hraw
      have hleft := length_lt_of_parseDeclared hraw
      dsimp only
      split
      · next vs =>
        -- The name and the bracket are two tokens, and the arguments need one unit more.
        rw [List.length_cons] at hleft
        apply (henough.arguments vs (by omega)).bind
        rintro ⟨arguments, _⟩ _
        exact conclusive_pure
      · exact conclusive_pure
    · rintro column us rfl
      exact hbracket ⟨column, us, rfl⟩

/-- One unit more is enough for generic arguments with one token more. -/
theorem Enough.arguments_succ (henough : Enough stop fuel) (hlength : ts.length + 1 < fuel + 1) :
    Conclusive (parseArguments stop (fuel + 1) ts) := by
  rw [parseArguments]
  apply (henough.type ts (by omega)).bind
  rintro ⟨argument, after⟩ hargument
  have hleft := length_le_of_parseType hargument
  dsimp only
  split
  · next vs =>
    rw [List.length_cons] at hleft
    apply (henough.arguments vs (by omega)).bind
    rintro ⟨arguments, _⟩ _
    exact conclusive_pure
  · exact (parseMark_conclusive _).bind fun _ _ => conclusive_pure

/-- Whatever the fuel, it is enough for as many tokens as it exceeds. -/
theorem enough : ∀ fuel, Enough stop fuel := by
  intro fuel
  induction fuel with
  | zero =>
    constructor
    · intro ts hlength
      omega
    · intro ts hlength
      omega
  | succ fuel ih =>
    constructor
    · intro ts hlength
      exact ih.type_succ hlength
    · intro ts hlength
      exact ih.arguments_succ hlength

end SwiftDecl.TypeName
