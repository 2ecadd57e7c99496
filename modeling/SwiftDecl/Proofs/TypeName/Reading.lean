import SwiftDecl.Proofs.Outcome
import SwiftDecl.Proofs.TypeName.Tokens
import SwiftDecl.TypeName.Parser

/-!
# What the parser reads

One lemma for each part of the parser says what it reads off the tokens when it succeeds. The
parts that do not nest are described by the grammar at once; for a type and for generic arguments,
`PrimaryRead` and `ArgumentsRead` list the ways to succeed in terms of the parts, which are read
with one unit of fuel less. The proofs about the parser go by these lists and do not open it again.
-/

namespace SwiftDecl.TypeName

variable {stop fuel : Nat} {ts rest : List Token}

/-- The next token is the mark. -/
def StartsWith (mark : Char) (ts : List Token) : Prop :=
  ∃ column us, ts = ⟨column, .mark mark⟩ :: us

/-- Another token is no mark. -/
theorem not_startsWith_cons {mark : Char} {t : Token} {us : List Token}
    (h : t.lexeme ≠ .mark mark) : ¬ StartsWith mark (t :: us) := by
  rintro ⟨column, vs, hstart⟩
  cases hstart
  exact h rfl

/-- At the end there is no mark. -/
theorem not_startsWith_nil {mark : Char} : ¬ StartsWith mark [] := by
  rintro ⟨column, vs, hstart⟩
  cases hstart

/-! ## Marks and identifiers -/

/-- A mark is read if it is the next token. -/
theorem parseMark_eq_ok_iff {mark : Char} :
    parseMark stop mark ts = .ok rest ↔ ∃ column, ts = ⟨column, .mark mark⟩ :: rest := by
  constructor
  · intro h
    unfold parseMark at h
    split at h
    · next column c us =>
      split at h
      · next hmark =>
        cases h
        exact ⟨column, by rw [hmark]⟩
      · cases h
    · cases h
  · rintro ⟨column, rfl⟩
    simp [parseMark]

/-- An identifier is read if the next token is one. -/
theorem parseIdentifier_eq_ok_iff {name : String} :
    parseIdentifier stop ts = .ok (name, rest) ↔
      ∃ column w, ts = ⟨column, .word w⟩ :: rest ∧ IsIdentifier w ∧ name = String.ofList w := by
  constructor
  · intro h
    unfold parseIdentifier at h
    split at h
    · next column w us =>
      split at h
      · cases h
      · next hdigit =>
        rw [Bool.not_eq_true] at hdigit
        cases h
        exact ⟨column, w, rfl, isIdentifier_iff.2 hdigit, rfl⟩
    · cases h
  · rintro ⟨column, w, rfl, hw, rfl⟩
    rw [parseIdentifier, if_neg (by simp [isIdentifier_iff.1 hw])]

/-! ## Dotted names -/

/-- The names after dots are read as far as there are dots. -/
theorem parseNested_sound : ∀ {ts : List Token} {names : List String} {rest : List Token},
    parseNested stop ts = .ok (names, rest) →
      ∃ us, ts = us ++ rest ∧ IsNested (lexemes us) names ∧ ¬ StartsWith '.' rest := by
  intro ts
  induction ts using parseNested.induct with
  | case1 column column' w ts ih =>
    -- a dot and a word
    intro names rest h
    simp only [parseNested, bind_eq_ok_iff, pure_eq_ok_iff] at h
    obtain ⟨⟨name, after⟩, hname, ⟨more, rest'⟩, hmore, hresult⟩ := h
    cases hresult
    obtain ⟨_, w', hw', hidentifier, rfl⟩ := parseIdentifier_eq_ok_iff.1 hname
    cases hw'
    obtain ⟨us, rfl, hnested, hstop⟩ := ih hmore
    exact ⟨⟨column, .mark '.'⟩ :: ⟨column', .word w⟩ :: us, rfl, .dot hidentifier hnested, hstop⟩
  | case2 column ts hword =>
    -- a dot with no word after it
    intro names rest h
    rw [parseNested] at h
    · cases h
    · exact hword
  | case3 ts hword hdot =>
    -- no dot
    intro names rest h
    rw [parseNested] at h
    · cases h
      refine ⟨[], rfl, .nil, ?_⟩
      rintro ⟨column, us, hstart⟩
      exact hdot column us hstart
    · exact hword
    · exact hdot

/-- Names after dots are read if no dot follows them. -/
theorem parseNested_complete {ls : List Lexeme} {names : List String} (h : IsNested ls names) :
    ∀ {us : List Token}, lexemes us = ls → ¬ StartsWith '.' rest →
      parseNested stop (us ++ rest) = .ok (names, rest) := by
  induction h with
  | nil =>
    intro us hus hstop
    rw [lexemes, List.map_eq_nil_iff] at hus
    subst hus
    rw [List.nil_append, parseNested]
    · -- Neither equation with a dot applies.
      rintro column column' w ts rfl
      exact hstop ⟨column, _, rfl⟩
    · rintro column ts rfl
      exact hstop ⟨column, _, rfl⟩
  | @dot w ls names hw h ih =>
    intro us hus hstop
    obtain ⟨⟨column, _⟩, vs, rfl, hdot, hvs⟩ := List.map_eq_cons_iff.1 hus
    obtain ⟨⟨column', _⟩, us, rfl, hword, htail⟩ := List.map_eq_cons_iff.1 hvs
    cases hdot
    cases hword
    -- The word after the dot is an identifier, and the other names come after it.
    have hname : parseIdentifier stop [⟨column', .word w⟩] = .ok (String.ofList w, []) :=
      parseIdentifier_eq_ok_iff.2 ⟨column', w, rfl, hw, rfl⟩
    have hmore := ih htail hstop
    simp only [List.cons_append, parseNested, bind_eq_ok_iff, pure_eq_ok_iff]
    exact ⟨_, hname, _, hmore, rfl⟩

/-- A dotted name is read as far as it goes. -/
theorem parseDeclared_eq_ok_iff {n : DeclaredName} :
    parseDeclared stop ts = .ok (n, rest) ↔
      ∃ us, ts = us ++ rest ∧ IsDeclared (lexemes us) n ∧ ¬ StartsWith '.' rest := by
  constructor
  · intro h
    simp only [parseDeclared, bind_eq_ok_iff, pure_eq_ok_iff] at h
    obtain ⟨⟨name, after⟩, hname, ⟨names, rest'⟩, hnames, hresult⟩ := h
    cases hresult
    obtain ⟨column, w, rfl, hw, rfl⟩ := parseIdentifier_eq_ok_iff.1 hname
    obtain ⟨us, rfl, hnested, hstop⟩ := parseNested_sound hnames
    exact ⟨⟨column, .word w⟩ :: us, rfl, .names hw hnested, hstop⟩
  · -- Conversely, the tokens of a dotted name are a word and the names after dots.
    rintro ⟨us, rfl, hdeclared, hstop⟩
    generalize hls : lexemes us = ls at hdeclared
    cases hdeclared with
    | @names w ls names hw hnested =>
      obtain ⟨⟨column, _⟩, us, rfl, hword, htail⟩ := List.map_eq_cons_iff.1 hls
      cases hword
      have hname : parseIdentifier stop (⟨column, .word w⟩ :: (us ++ rest)) =
          .ok (String.ofList w, us ++ rest) :=
        parseIdentifier_eq_ok_iff.2 ⟨column, w, rfl, hw, rfl⟩
      have hnames : parseNested stop (us ++ rest) = .ok (names, rest) :=
        parseNested_complete hnested htail hstop
      simp only [List.cons_append, parseDeclared, bind_eq_ok_iff, pure_eq_ok_iff]
      exact ⟨_, hname, _, hnames, rfl⟩

/-! ## Question marks -/

/-- A type with no question mark after it is not wrapped. -/
theorem wrapOptional_eq_self {t : TypeName} (h : ¬ StartsWith '?' ts) :
    wrapOptional t ts = (t, ts) := by
  rw [wrapOptional]
  rintro column us rfl
  exact h ⟨column, us, rfl⟩

/-- The question marks after a type are all taken, and each is one more optional. -/
theorem wrapOptional_sound : ∀ (ts : List Token) (t : TypeName), ∃ us,
    ts = us ++ (wrapOptional t ts).2 ∧ ¬ StartsWith '?' (wrapOptional t ts).2 ∧
      ∀ ls, IsType ls t → IsType (ls ++ lexemes us) (wrapOptional t ts).1 := by
  intro ts
  induction ts with
  | nil =>
    intro t
    exact ⟨[], rfl, not_startsWith_nil, fun ls h => by simpa [wrapOptional] using h⟩
  | cons q ts ih =>
    intro t
    by_cases hmark : StartsWith '?' (q :: ts)
    · -- a question mark: the type so far is made optional
      obtain ⟨column, us, hstart⟩ := hmark
      cases hstart
      obtain ⟨us, hsplit, hstop, htype⟩ := ih (.optional t)
      refine ⟨⟨column, .mark '?'⟩ :: us, ?_, hstop, ?_⟩
      · show _ = ⟨column, .mark '?'⟩ :: (us ++ (wrapOptional (.optional t) ts).2)
        rw [← hsplit]
      · intro ls h
        have hwrapped : IsType ((ls ++ [.mark '?']) ++ lexemes us)
            (wrapOptional (.optional t) ts).1 := htype _ (.optional h)
        rw [List.append_assoc] at hwrapped
        exact hwrapped
    · -- none: the type stays as it is
      rw [wrapOptional_eq_self hmark]
      refine ⟨[], rfl, hmark, ?_⟩
      intro ls h
      rw [lexemes_nil, List.append_nil]
      exact h

/-! ## Types and generic arguments -/

/-- A type without question marks after it is read off the tokens. -/
inductive PrimaryRead (stop fuel : Nat) : List Token → TypeName → List Token → Prop where
  | array {first last ts t rest} (h : parseType stop fuel ts = .ok (t, ⟨last, .mark ']'⟩ :: rest)) :
      PrimaryRead stop fuel (⟨first, .mark '['⟩ :: ts) (.array t) rest
  | dictionary {first middle last ts k us v rest}
      (hk : parseType stop fuel ts = .ok (k, ⟨middle, .mark ':'⟩ :: us))
      (hv : parseType stop fuel us = .ok (v, ⟨last, .mark ']'⟩ :: rest)) :
      PrimaryRead stop fuel (⟨first, .mark '['⟩ :: ts) (.dictionary k v) rest
  | declared {ts n rest} (h : parseDeclared stop ts = .ok (n, rest))
      (hstop : ¬ StartsWith '<' rest) : PrimaryRead stop fuel ts (.declared n) rest
  | parameterized {ts n column us as rest}
      (hn : parseDeclared stop ts = .ok (n, ⟨column, .mark '<'⟩ :: us))
      (hs : parseArguments stop fuel us = .ok (as, rest)) :
      PrimaryRead stop fuel ts (.parameterized n as) rest

/-- Generic arguments up to the closing bracket are read off the tokens. -/
inductive ArgumentsRead (stop fuel : Nat) : List Token → List TypeName → List Token → Prop where
  | last {ts t column rest} (h : parseType stop fuel ts = .ok (t, ⟨column, .mark '>'⟩ :: rest)) :
      ArgumentsRead stop fuel ts [t] rest
  | more {ts t column us as rest}
      (h : parseType stop fuel ts = .ok (t, ⟨column, .mark ','⟩ :: us))
      (hs : parseArguments stop fuel us = .ok (as, rest)) :
      ArgumentsRead stop fuel ts (t :: as) rest

/-- No dotted name starts with a bracket. -/
theorem parseDeclared_bracket {column : Nat} {us : List Token} {n : DeclaredName} :
    parseDeclared stop (⟨column, .mark '['⟩ :: us) ≠ .ok (n, rest) := by
  intro h
  obtain ⟨vs, hsplit, hdeclared, _⟩ := parseDeclared_eq_ok_iff.1 h
  generalize hls : lexemes vs = ls at hdeclared
  cases hdeclared with
  | names hw hnested =>
    obtain ⟨t, ws, rfl, hword, _⟩ := List.map_eq_cons_iff.1 hls
    cases hsplit
    cases hword

/-- A type is read as a primary type with the question marks after it. -/
theorem parseType_eq_ok_iff {t : TypeName} :
    parseType stop (fuel + 1) ts = .ok (t, rest) ↔
      ∃ p us, PrimaryRead stop fuel ts p us ∧ wrapOptional p us = (t, rest) := by
  constructor
  · intro h
    by_cases hbracket : StartsWith '[' ts
    · -- A collection: the colon after the first type decides which.
      obtain ⟨column, us, rfl⟩ := hbracket
      simp only [parseType, bind_eq_ok_iff] at h
      obtain ⟨⟨first, after⟩, hfirst, h⟩ := h
      dsimp only at h
      -- The name of a primary type is not followed by an angle bracket.
      split at h
      · next column vs =>
        simp only [bind_eq_ok_iff, pure_eq_ok_iff, parseMark_eq_ok_iff] at h
        obtain ⟨⟨value, _⟩, hvalue, rest', ⟨column', rfl⟩, hresult⟩ := h
        exact ⟨_, rest', .dictionary hfirst hvalue, hresult.symm⟩
      · simp only [bind_eq_ok_iff, pure_eq_ok_iff, parseMark_eq_ok_iff] at h
        obtain ⟨rest', ⟨column', rfl⟩, hresult⟩ := h
        exact ⟨_, rest', .array hfirst, hresult.symm⟩
    · -- A name: the angle bracket after it decides whether there are generic arguments.
      rw [parseType] at h
      · simp only [bind_eq_ok_iff] at h
        obtain ⟨⟨raw, after⟩, hraw, h⟩ := h
        dsimp only at h
        split at h
        · next column vs =>
          simp only [bind_eq_ok_iff, pure_eq_ok_iff] at h
          obtain ⟨⟨arguments, rest'⟩, harguments, hresult⟩ := h
          exact ⟨_, rest', .parameterized hraw harguments, hresult.symm⟩
        · next hangle =>
          rw [pure_eq_ok_iff] at h
          refine ⟨_, _, .declared hraw ?_, h.symm⟩
          rintro ⟨column, vs, hstart⟩
          exact hangle column vs hstart
      · rintro column us rfl
        exact hbracket ⟨column, us, rfl⟩
  · rintro ⟨p, us, hread, hwrap⟩
    cases hread with
    | array h =>
      simp [parseType, h, parseMark, hwrap, bind, Except.bind, pure, Except.pure]
    | dictionary hk hv =>
      simp [parseType, hk, hv, parseMark, hwrap, bind, Except.bind, pure, Except.pure]
    | declared h hstop =>
      rw [parseType]
      · simp only [h, bind, Except.bind]
        split
        · next column vs => exact absurd ⟨column, vs, rfl⟩ hstop
        · rw [hwrap]
          rfl
      · -- A dotted name does not start with a bracket.
        rintro column vs rfl
        exact parseDeclared_bracket h
    | parameterized hn hs =>
      rw [parseType]
      · simp [hn, hs, hwrap, bind, Except.bind, pure, Except.pure]
      · rintro column vs rfl
        exact parseDeclared_bracket hn

/-- Generic arguments are read one by one. -/
theorem parseArguments_eq_ok_iff {as : List TypeName} :
    parseArguments stop (fuel + 1) ts = .ok (as, rest) ↔ ArgumentsRead stop fuel ts as rest := by
  constructor
  · intro h
    simp only [parseArguments, bind_eq_ok_iff] at h
    obtain ⟨⟨argument, after⟩, hargument, h⟩ := h
    dsimp only at h
    split at h
    · next column us =>
      -- a comma, and more arguments
      simp only [bind_eq_ok_iff, pure_eq_ok_iff] at h
      obtain ⟨⟨arguments, rest'⟩, harguments, hresult⟩ := h
      cases hresult
      exact .more hargument harguments
    · simp only [bind_eq_ok_iff, pure_eq_ok_iff, parseMark_eq_ok_iff] at h
      obtain ⟨rest', ⟨column', rfl⟩, hresult⟩ := h
      cases hresult
      exact .last hargument
  · intro hread
    cases hread with
    | last h => simp [parseArguments, h, parseMark, bind, Except.bind, pure, Except.pure]
    | more h hs => simp [parseArguments, h, hs, bind, Except.bind, pure, Except.pure]

end SwiftDecl.TypeName
