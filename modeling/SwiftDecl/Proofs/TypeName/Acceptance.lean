import SwiftDecl.Proofs.TypeName.Fuel

/-!
# The parser accepts the grammar

A text is read as a type name exactly if the grammar derives the type name from the cut of the
text. Both the cut and the type name are unique, since the scan and the parser are functions. A
text that is refused is refused for a token that does not fit, or because it is blank.
-/

namespace SwiftDecl.TypeName

variable {t : TypeName}

/-- A text is read if a type is read off its tokens and no token is left. -/
theorem parseChars_eq_ok_iff {cs : List Char} :
    parseChars cs = .ok t ↔
      parseType (cs.length + 1) ((Token.scan 1 cs).length + 1) (Token.scan 1 cs) =
        .ok (t, []) := by
  unfold parseChars
  cases hscan : Token.scan 1 cs with
  | nil => simp [parseType, parseDeclared, parseIdentifier, bind, Except.bind, throw, throwThe,
      MonadExceptOf.throw]
  | cons first ts =>
    simp only [List.isEmpty_cons, Bool.false_eq_true, if_false, bind_eq_ok_iff]
    constructor
    · rintro ⟨⟨type, rest⟩, hread, h⟩
      cases rest with
      | nil =>
        cases h
        exact hread
      | cons next rest => cases h
    · intro hread
      exact ⟨(t, []), hread, rfl⟩

/-- The parser reads a type name off a text exactly if the grammar derives it from the cut. -/
theorem parse_eq_ok_iff {text : String} :
    parse text = .ok t ↔ ∃ ls, Cut text.toList ls ∧ IsType ls t := by
  rw [parse, parseChars_eq_ok_iff]
  constructor
  · intro h
    obtain ⟨us, hsplit, htype⟩ := (sound _).type h
    rw [List.append_nil] at hsplit
    rw [← hsplit] at htype
    exact ⟨_, (cut_iff 1).2 ⟨rfl, htype.punctuated⟩, htype⟩
  · rintro ⟨ls, hcut, htype⟩
    obtain ⟨hlexemes, _⟩ := (cut_iff 1).1 hcut
    have hlength : ls.length < (Token.scan 1 text.toList).length + 1 := by
      rw [← hlexemes, length_lexemes]
      omega
    have hread := htype.parsed (text.toList.length + 1) _ _ hlexemes hlength []
      ⟨not_startsWith_nil, not_startsWith_nil⟩
    rw [List.append_nil, wrapOptional_eq_self not_startsWith_nil] at hread
    exact hread

/-- There is nothing to read exactly in a blank text. -/
theorem problem_nothing_iff {text : String} {e : ParseError} (h : parse text = .error e) :
    e.problem = .nothing ↔ ∀ c ∈ text.toList, Text.isBlank c = true := by
  rw [← scan_eq_nil_iff 1]
  rw [parse, parseChars] at h
  cases hscan : Token.scan 1 text.toList with
  | nil =>
    rw [hscan] at h
    cases h
    simp
  | cons first ts =>
    -- With a token to read there is fuel enough, so the error is one about the text.
    have hconclusive : Conclusive (parse text) := by
      rw [parse, parseChars, hscan]
      simp only [List.isEmpty_cons, Bool.false_eq_true, if_false]
      apply ((enough _).type _ (Nat.lt_succ_self _)).bind
      rintro ⟨type, rest⟩ _
      cases rest with
      | nil => exact conclusive_pure
      | cons next rest => exact conclusive_error (by simp)
    have hproblem : e.problem ≠ .nothing := hconclusive e h
    simp [hproblem]

/-- The parser accepts the grammar: it returns the type name that is derived from the cut of the
text. There is one cut and one type name at most. A text without a derivation is refused with an
error, which says that there is nothing to read exactly if the text is blank. -/
theorem parse_accepts_grammar (text : String) :
    (∀ t, parse text = .ok t ↔ ∃ ls, Cut text.toList ls ∧ IsType ls t) ∧
      (∀ ls ls' t t', Cut text.toList ls → IsType ls t → Cut text.toList ls' → IsType ls' t' →
        ls' = ls ∧ t' = t) ∧
      ((∃ e, parse text = .error e) ↔ ¬ ∃ ls t, Cut text.toList ls ∧ IsType ls t) ∧
      (∀ e, parse text = .error e →
        (e.problem = .nothing ↔ ∀ c ∈ text.toList, Text.isBlank c = true)) := by
  refine ⟨fun t => parse_eq_ok_iff, ?_, ?_, fun e h => problem_nothing_iff h⟩
  · -- Both cuts are the scan's, and both type names are what the parser returns.
    intro ls ls' t t' hcut htype hcut' htype'
    have hparsed : parse text = .ok t := parse_eq_ok_iff.2 ⟨ls, hcut, htype⟩
    have hparsed' : parse text = .ok t' := parse_eq_ok_iff.2 ⟨ls', hcut', htype'⟩
    constructor
    · rw [← hcut'.lexemes_scan 1, hcut.lexemes_scan 1]
    · rw [hparsed] at hparsed'
      exact (Except.ok.inj hparsed').symm
  · constructor
    · -- The parser returns one result, so an error and a derivation exclude each other.
      rintro ⟨e, herror⟩ ⟨ls, t, hderived⟩
      rw [parse_eq_ok_iff.2 ⟨ls, hderived⟩] at herror
      cases herror
    · intro hnone
      cases hparsed : parse text with
      | ok t =>
        obtain ⟨ls, hderived⟩ := parse_eq_ok_iff.1 hparsed
        exact absurd ⟨ls, t, hderived⟩ hnone
      | error e => exact ⟨e, rfl⟩

/-- A dictionary with a dotted name and an optional, and white space between its tokens. -/
theorem parse_accepts_dictionary :
    parse "[ Foundation.Data :\tInt ? ]" =
        .ok (.dictionary (.declared { names := ["Foundation", "Data"] })
          (.optional (.named "Int"))) ∧
      ∀ ls t, Cut "[ Foundation.Data :\tInt ? ]".toList ls → IsType ls t →
        t = .dictionary (.declared { names := ["Foundation", "Data"] })
          (.optional (.named "Int")) := by
  obtain ⟨haccepts, hunique, _, _⟩ := parse_accepts_grammar "[ Foundation.Data :\tInt ? ]"
  have hparsed : parse "[ Foundation.Data :\tInt ? ]" =
      .ok (.dictionary (.declared { names := ["Foundation", "Data"] })
        (.optional (.named "Int"))) :=
    rfl
  obtain ⟨ls, hcut, htype⟩ := (haccepts _).1 hparsed
  refine ⟨hparsed, ?_⟩
  intro ls' t hcut' htype'
  exact (hunique ls ls' _ t hcut htype hcut' htype').2

end SwiftDecl.TypeName
