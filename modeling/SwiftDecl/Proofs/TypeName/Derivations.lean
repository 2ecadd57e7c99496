import SwiftDecl.Proofs.TypeName.Reading

/-!
# Reading and deriving

The parser reads a type off tokens exactly if the grammar derives it from their lexemes. That what
is read is derived is shown by induction on the fuel (`sound`). That what is derived is read is
shown along the derivation, for any tokens that may follow (`IsType.parsed`): a question mark goes
to the type before it, and a dot or an angle bracket would go on with a name.
-/

namespace SwiftDecl.TypeName

variable {stop fuel : Nat} {ts us rest : List Token} {t : TypeName}

/-! ## What is read is derived -/

/-- What the parser reads with the fuel is derived. -/
structure Sound (stop fuel : Nat) : Prop where
  type : ∀ {ts t rest}, parseType stop fuel ts = .ok (t, rest) →
    ∃ us, ts = us ++ rest ∧ IsType (lexemes us) t
  arguments : ∀ {ts as rest}, parseArguments stop fuel ts = .ok (as, rest) →
    ∃ us column, ts = us ++ ⟨column, .mark '>'⟩ :: rest ∧ IsArguments (lexemes us) as

/-- A primary type that is read is derived if its parts are. -/
theorem Sound.primary (hsound : Sound stop fuel) (h : PrimaryRead stop fuel ts t rest) :
    ∃ us, ts = us ++ rest ∧ IsPrimary (lexemes us) t := by
  cases h with
  | @array first last ts t rest h =>
    -- `[T]`
    obtain ⟨us, rfl, htype⟩ := hsound.type h
    refine ⟨⟨first, .mark '['⟩ :: (us ++ [⟨last, .mark ']'⟩]), by simp, ?_⟩
    simpa using IsPrimary.array htype
  | @dictionary first middle last ts k us v rest hk hv =>
    -- `[K: V]`
    obtain ⟨ks, rfl, hkey⟩ := hsound.type hk
    obtain ⟨vs, rfl, hvalue⟩ := hsound.type hv
    refine ⟨⟨first, .mark '['⟩ :: (ks ++ ⟨middle, .mark ':'⟩ :: (vs ++ [⟨last, .mark ']'⟩])),
      by simp, ?_⟩
    simpa using IsPrimary.dictionary hkey hvalue
  | declared h hstop =>
    -- a dotted name alone
    obtain ⟨us, rfl, hdeclared, _⟩ := parseDeclared_eq_ok_iff.1 h
    exact ⟨us, rfl, .declared hdeclared⟩
  | @parameterized ts n column us as rest hn hs =>
    -- a dotted name and its generic arguments
    obtain ⟨ns, rfl, hdeclared, _⟩ := parseDeclared_eq_ok_iff.1 hn
    obtain ⟨vs, last, rfl, harguments⟩ := hsound.arguments hs
    refine ⟨ns ++ ⟨column, .mark '<'⟩ :: (vs ++ [⟨last, .mark '>'⟩]), by simp, ?_⟩
    simpa using IsPrimary.parameterized hdeclared harguments

/-- Whatever the fuel, what the parser reads is derived. -/
theorem sound : ∀ fuel, Sound stop fuel := by
  intro fuel
  induction fuel with
  | zero =>
    -- Without fuel nothing is read.
    constructor
    · intro ts t rest h
      cases h
    · intro ts as rest h
      cases h
  | succ fuel ih =>
    constructor
    · intro ts t rest h
      obtain ⟨p, after, hprimary, hwrap⟩ := parseType_eq_ok_iff.1 h
      obtain ⟨us, rfl, hderived⟩ := ih.primary hprimary
      obtain ⟨marks, hsplit, _, htype⟩ := wrapOptional_sound after p
      -- The question marks that were taken belong to the type.
      rw [hwrap] at hsplit htype
      have hwrapped := htype _ (.primary hderived)
      rw [← lexemes_append] at hwrapped
      exact ⟨us ++ marks, by rw [List.append_assoc, ← hsplit], hwrapped⟩
    · intro ts as rest h
      cases parseArguments_eq_ok_iff.1 h with
      | @last t column _ hlast =>
        -- the argument before the closing mark
        obtain ⟨us, rfl, htype⟩ := ih.type hlast
        exact ⟨us, column, rfl, .one htype⟩
      | @more t column vs as _ hfirst hs =>
        -- an argument before a comma
        obtain ⟨us, rfl, htype⟩ := ih.type hfirst
        obtain ⟨ws, last, rfl, harguments⟩ := ih.arguments hs
        refine ⟨us ++ ⟨column, .mark ','⟩ :: ws, last, by simp, ?_⟩
        simpa using IsArguments.more htype harguments

/-! ## What is derived is read -/

/-- Tokens that do not go on with a name before them. -/
structure NameEnds (rest : List Token) : Prop where
  dot : ¬ StartsWith '.' rest
  angle : ¬ StartsWith '<' rest

/-- A name ends before a mark that is neither a dot nor an angle bracket. -/
theorem nameEnds_mark {column : Nat} {c : Char} (hdot : c ≠ '.') (hangle : c ≠ '<') :
    NameEnds (⟨column, .mark c⟩ :: rest) := by
  constructor
  · apply not_startsWith_cons
    simpa using hdot
  · apply not_startsWith_cons
    simpa using hangle

/-- Tokens start with the mark with which their lexemes start. -/
theorem mark_first {c : Char} {ls : List Lexeme} (h : lexemes us = .mark c :: ls) :
    ∃ column vs, us = ⟨column, .mark c⟩ :: vs ∧ lexemes vs = ls := by
  obtain ⟨⟨column, _⟩, vs, rfl, hmark, hvs⟩ := List.map_eq_cons_iff.1 h
  cases hmark
  exact ⟨column, vs, rfl, hvs⟩

/-- Tokens are split at a mark of their lexemes. -/
theorem mark_between {c : Char} {ls ms : List Lexeme} (h : lexemes us = ls ++ .mark c :: ms) :
    ∃ vs column ws, us = vs ++ ⟨column, .mark c⟩ :: ws ∧ lexemes vs = ls ∧ lexemes ws = ms := by
  obtain ⟨vs, after, rfl, hvs, hafter⟩ := List.map_eq_append_iff.1 h
  obtain ⟨column, ws, rfl, hws⟩ := mark_first hafter
  exact ⟨vs, column, ws, rfl, hvs, hws⟩

/-- Tokens end with the mark with which their lexemes end. -/
theorem mark_last {c : Char} {ls : List Lexeme} (h : lexemes us = ls ++ [.mark c]) :
    ∃ vs column, us = vs ++ [⟨column, .mark c⟩] ∧ lexemes vs = ls := by
  obtain ⟨vs, column, ws, rfl, hvs, hws⟩ := mark_between h
  rw [lexemes, List.map_eq_nil_iff] at hws
  subst hws
  exact ⟨vs, column, rfl, hvs⟩

/-- A dotted name has a token at least. -/
theorem IsDeclared.length_pos {ls : List Lexeme} {n : DeclaredName} (h : IsDeclared ls n) :
    0 < ls.length := by
  cases h with
  | names hw h => simp

/-- A type that is read before whatever ends it is read up to a mark that ends it and is no
question mark. -/
theorem parseType_before_mark (column : Nat) (c : Char) (rest : List Token)
    (hc : c ∉ ['.', '<', '?'])
    (h : ∀ rest, NameEnds rest → parseType stop fuel (us ++ rest) = .ok (wrapOptional t rest)) :
    parseType stop fuel (us ++ ⟨column, .mark c⟩ :: rest) = .ok (t, ⟨column, .mark c⟩ :: rest) := by
  simp only [List.mem_cons, List.not_mem_nil, or_false, not_or] at hc
  obtain ⟨hdot, hangle, hquestion⟩ := hc
  have hstop : ¬ StartsWith '?' (⟨column, .mark c⟩ :: rest) := by
    apply not_startsWith_cons
    simpa using hquestion
  have hread := h (⟨column, .mark c⟩ :: rest) (nameEnds_mark hdot hangle)
  rw [wrapOptional_eq_self hstop] at hread
  exact hread

mutual

/-- A derived type is read, with the question marks that follow, if the fuel exceeds the number
of its tokens and no name goes on after it. -/
theorem IsType.parsed {ls : List Lexeme} {t : TypeName} :
    IsType ls t → ∀ (stop fuel : Nat) (us : List Token), lexemes us = ls → ls.length < fuel →
      ∀ rest, NameEnds rest → parseType stop fuel (us ++ rest) = .ok (wrapOptional t rest)
  | .primary h => by
    intro stop fuel us hus hfuel rest hends
    cases fuel with
    | zero =>
      -- The fuel exceeds the length, so there is some.
      omega
    | succ fuel =>
      have hread := h.read stop fuel us hus (Nat.le_of_lt_succ hfuel) rest hends
      exact parseType_eq_ok_iff.2 ⟨_, rest, hread, rfl⟩
  | .optional h => by
    intro stop fuel us hus hfuel rest hends
    obtain ⟨vs, column, rfl, hvs⟩ := mark_last hus
    rw [List.length_append, List.length_singleton] at hfuel
    -- The question mark is the first of what follows the type that is made optional.
    have hread := h.parsed stop fuel vs hvs (by omega) (⟨column, .mark '?'⟩ :: rest)
      (nameEnds_mark (by decide) (by decide))
    rw [List.append_assoc]
    exact hread

/-- A derived primary type is read, if the fuel reaches the number of its tokens and no name goes
on after it. -/
theorem IsPrimary.read {ls : List Lexeme} {p : TypeName} :
    IsPrimary ls p → ∀ (stop fuel : Nat) (us : List Token), lexemes us = ls → ls.length ≤ fuel →
      ∀ rest, NameEnds rest → PrimaryRead stop fuel (us ++ rest) p rest
  | .array h => by
    intro stop fuel us hus hfuel rest hends
    obtain ⟨first, ws, rfl, hws⟩ := mark_first hus
    obtain ⟨es, last, rfl, hes⟩ := mark_last hws
    simp only [List.length_cons, List.length_append, List.length_nil] at hfuel
    have helement := parseType_before_mark last ']' rest (by decide)
      (h.parsed stop fuel es hes (by omega))
    have hread : PrimaryRead stop fuel
        (⟨first, .mark '['⟩ :: (es ++ ⟨last, .mark ']'⟩ :: rest)) _ rest := .array helement
    simpa using hread
  | .dictionary hk hv => by
    intro stop fuel us hus hfuel rest hends
    obtain ⟨first, ws, rfl, hws⟩ := mark_first hus
    obtain ⟨ks, middle, after, rfl, hks, hafter⟩ := mark_between hws
    obtain ⟨vs, last, rfl, hvs⟩ := mark_last hafter
    simp only [List.length_cons, List.length_append, List.length_nil] at hfuel
    have hkey := parseType_before_mark middle ':' (vs ++ ⟨last, .mark ']'⟩ :: rest) (by decide)
      (hk.parsed stop fuel ks hks (by omega))
    have hvalue := parseType_before_mark last ']' rest (by decide)
      (hv.parsed stop fuel vs hvs (by omega))
    have hread : PrimaryRead stop fuel
        (⟨first, .mark '['⟩ :: (ks ++ ⟨middle, .mark ':'⟩ :: (vs ++ ⟨last, .mark ']'⟩ :: rest)))
        _ rest := .dictionary hkey hvalue
    simpa using hread
  | .declared h => by
    intro stop fuel us hus hfuel rest hends
    subst hus
    exact .declared (parseDeclared_eq_ok_iff.2 ⟨us, rfl, h, hends.dot⟩) hends.angle
  | .parameterized hn hs => by
    intro stop fuel us hus hfuel rest hends
    obtain ⟨ns, column, after, rfl, hns, hafter⟩ := mark_between hus
    obtain ⟨vs, last, rfl, hvs⟩ := mark_last hafter
    -- The name has a token, so the two brackets leave a unit more than the arguments have tokens.
    have hpositive := hn.length_pos
    simp only [List.length_cons, List.length_append, List.length_nil] at hfuel
    have hraw : parseDeclared stop
        (ns ++ ⟨column, .mark '<'⟩ :: (vs ++ ⟨last, .mark '>'⟩ :: rest)) =
          .ok (_, ⟨column, .mark '<'⟩ :: (vs ++ ⟨last, .mark '>'⟩ :: rest)) :=
      parseDeclared_eq_ok_iff.2 ⟨ns, rfl, hns ▸ hn, not_startsWith_cons (by simp)⟩
    have harguments := hs.parsed stop fuel vs hvs (by omega) last rest
    simpa using PrimaryRead.parameterized hraw harguments

/-- Derived generic arguments are read up to the closing bracket, if the fuel exceeds the number
of their tokens by more than one. -/
theorem IsArguments.parsed {ls : List Lexeme} {as : List TypeName} :
    IsArguments ls as → ∀ (stop fuel : Nat) (us : List Token), lexemes us = ls →
      ls.length + 1 < fuel → ∀ column rest,
      parseArguments stop fuel (us ++ ⟨column, .mark '>'⟩ :: rest) = .ok (as, rest)
  | .one h => by
    intro stop fuel us hus hfuel column rest
    cases fuel with
    | zero => omega
    | succ fuel =>
      -- The closing mark goes on with no type, so the argument ends before it.
      have hread := parseType_before_mark column '>' rest (by decide)
        (h.parsed stop fuel us hus (by omega))
      exact parseArguments_eq_ok_iff.2 (.last hread)
  | .more h hs => by
    intro stop fuel us hus hfuel column rest
    obtain ⟨vs, comma, ws, rfl, hvs, hws⟩ := mark_between hus
    rw [List.length_append, List.length_cons] at hfuel
    cases fuel with
    | zero => omega
    | succ fuel =>
      -- Nor does the comma. The pieces on both sides of it are shorter than the whole.
      have hfirst := parseType_before_mark comma ',' (ws ++ ⟨column, .mark '>'⟩ :: rest)
        (by decide) (h.parsed stop fuel vs hvs (by omega))
      have hmore := hs.parsed stop fuel ws hws (by omega) column rest
      rw [List.append_assoc]
      exact parseArguments_eq_ok_iff.2 (.more hfirst hmore)

end

end SwiftDecl.TypeName
