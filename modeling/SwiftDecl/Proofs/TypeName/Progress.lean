import SwiftDecl.Proofs.TypeName.Fuel

/-!
# Reading lexeme by lexeme

How far a type name has been read is what is awaited next and the brackets that are open
(`Progress`), and each lexeme leads on from there or does not fit (`Progress.step`). From everywhere
on the way the type name can still be completed (`Progress.exists_completion`).

The parser goes this way. What it reads leads to the end of a type (`traces`), and where it fails,
it has gone up to a token that does not fit, or to the end of the text before the type name is
complete, and the error has the column there (`blames`).
-/

namespace SwiftDecl.TypeName

/-! ## Progress -/

/-- A bracket that is open: before the colon of a dictionary or in an array, after the colon, or
around generic arguments. -/
inductive Bracket where
  | element
  | value
  | arguments
deriving DecidableEq

/-- What can come next: a type, a name after a dot, or what may stand after a name or after another
type. -/
inductive Awaited where
  | type
  | name
  | afterName
  | afterType
deriving DecidableEq

/-- How far a type name has been read: what is awaited, and the brackets that are open, the inmost
one first. -/
structure Progress where
  awaited : Awaited
  opened : List Bracket
deriving DecidableEq

/-- The mark that closes the bracket. -/
def Bracket.closing : Bracket → Char
  | element => ']'
  | value => ']'
  | arguments => '>'

/-- What a mark does after a type in the bracket: it closes the bracket, or another type follows. -/
def Bracket.step (b : Bracket) (opened : List Bracket) (c : Char) : Option Progress :=
  if c = b.closing then some ⟨.afterType, opened⟩
  else
    match b with
    | element => if c = ':' then some ⟨.type, value :: opened⟩ else none
    | value => none
    | arguments => if c = ',' then some ⟨.type, arguments :: opened⟩ else none

namespace Progress

/-- The start of a type name. -/
def start : Progress :=
  ⟨.type, []⟩

/-- The type name can end here. -/
def Accepting (p : Progress) : Prop :=
  p.opened = [] ∧ (p.awaited = .afterName ∨ p.awaited = .afterType)

/-- What a mark does after a type. -/
def stepAfter (c : Char) (opened : List Bracket) : Option Progress :=
  if c = '?' then some ⟨.afterType, opened⟩
  else
    match opened with
    | [] => none
    | b :: opened => b.step opened c

/-- One lexeme further, if it fits. -/
def step : Progress → Lexeme → Option Progress
  | ⟨.type, opened⟩, .mark c => if c = '[' then some ⟨.type, .element :: opened⟩ else none
  | ⟨.type, opened⟩, .word w => if IsIdentifier w then some ⟨.afterName, opened⟩ else none
  | ⟨.name, _⟩, .mark _ => none
  | ⟨.name, opened⟩, .word w => if IsIdentifier w then some ⟨.afterName, opened⟩ else none
  | ⟨.afterName, opened⟩, .mark c =>
    if c = '.' then some ⟨.name, opened⟩
    else if c = '<' then some ⟨.type, .arguments :: opened⟩
    else stepAfter c opened
  | ⟨.afterType, opened⟩, .mark c => stepAfter c opened
  | ⟨.afterName, _⟩, .word _ => none
  | ⟨.afterType, _⟩, .word _ => none

/-- Several lexemes further, if they all fit. -/
def run (p : Progress) (ls : List Lexeme) : Option Progress :=
  ls.foldlM step p

variable {p q r : Progress} {ls ms : List Lexeme}

@[simp] theorem run_nil (p : Progress) : p.run [] = some p := rfl

@[simp] theorem run_cons (p : Progress) (l : Lexeme) (ls : List Lexeme) :
    p.run (l :: ls) = (p.step l).bind (·.run ls) := rfl

theorem run_append (p : Progress) (ls ms : List Lexeme) :
    p.run (ls ++ ms) = (p.run ls).bind (·.run ms) := by
  unfold run
  rw [List.foldlM_append]
  rfl

/-- One run after another. -/
theorem run_trans (hls : p.run ls = some q) (hms : q.run ms = some r) :
    p.run (ls ++ ms) = some r := by
  rw [run_append, hls]
  exact hms

/-! ## Completion -/

/-- The lexemes that close the brackets. -/
def closers (opened : List Bracket) : List Lexeme :=
  opened.map fun b => .mark b.closing

/-- Lexemes that complete the type name: a name if a type or a name is awaited, and what closes the
brackets that are open. -/
def completion (p : Progress) : List Lexeme :=
  if p.awaited = .type ∨ p.awaited = .name then .word ['T'] :: closers p.opened
  else closers p.opened

/-- After a type the brackets can be closed. -/
theorem run_closers (opened : List Bracket) {a : Awaited} (ha : a = .afterName ∨ a = .afterType) :
    ∃ q, run ⟨a, opened⟩ (closers opened) = some q ∧ q.Accepting := by
  induction opened generalizing a with
  | nil => exact ⟨_, rfl, rfl, ha⟩
  | cons b opened ih =>
    -- The inmost bracket is closed first, and a type that ends leaves the next one to close.
    have hclose : step ⟨a, b :: opened⟩ (.mark b.closing) = some ⟨.afterType, opened⟩ := by
      rcases ha with rfl | rfl
      · cases b <;> rfl
      · cases b <;> rfl
    rcases ih (.inr rfl) with ⟨q, hq, haccepting⟩
    refine ⟨q, ?_, haccepting⟩
    show (step ⟨a, b :: opened⟩ (.mark b.closing)).bind (·.run (closers opened)) = some q
    rw [hclose]
    exact hq

/-- From everywhere the type name can be completed. -/
theorem exists_completion (p : Progress) : ∃ q, p.run p.completion = some q ∧ q.Accepting := by
  rcases p with ⟨awaited, opened⟩
  have hword : IsIdentifier ['T'] := by decide
  cases awaited with
  | type =>
    rcases run_closers opened (.inl rfl) with ⟨q, hq, haccepting⟩
    refine ⟨q, ?_, haccepting⟩
    simp [completion, step, hword, hq]
  | name =>
    rcases run_closers opened (.inl rfl) with ⟨q, hq, haccepting⟩
    refine ⟨q, ?_, haccepting⟩
    simp [completion, step, hword, hq]
  | afterName => exact run_closers opened (.inl rfl)
  | afterType => exact run_closers opened (.inr rfl)

/-! ## What does not fit -/

/-- The next token does not fit, or there is none and the type name cannot end. -/
def Refuses (p : Progress) : List Token → Prop
  | [] => ¬ p.Accepting
  | t :: _ => p.step t.lexeme = none

end Progress

/-- The awaited is what may stand after a type. -/
def Awaited.IsAfter (a : Awaited) : Prop :=
  a = .afterName ∨ a = .afterType

variable {stop fuel : Nat} {ts us rest : List Token} {a : Awaited} {e : ParseError}

/-- The tokens are a type, and the rest does not go on with it. -/
structure IsPassed (us : List Token) (a : Awaited) (rest : List Token) : Prop where
  after : a.IsAfter
  run : ∀ opened, Progress.run ⟨.type, opened⟩ (lexemes us) = some ⟨a, opened⟩
  question : ¬ StartsWith '?' rest
  name : a = .afterName → NameEnds rest

/-- The tokens lead to one that does not fit, or to their end where the type name cannot end, and
the column is the one there. -/
def Blames (stop : Nat) (p : Progress) (ts : List Token) (e : ParseError) : Prop :=
  ∃ us rest q, ts = us ++ rest ∧ p.run (lexemes us) = some q ∧
    e.column = nextColumn stop rest ∧ q.Refuses rest

theorem blames_here {p : Progress} (hcolumn : e.column = nextColumn stop ts)
    (h : p.Refuses ts) : Blames stop p ts e :=
  ⟨[], ts, p, rfl, rfl, hcolumn, h⟩

/-- Tokens that fit can stand before. -/
theorem Blames.after {p q : Progress} (hus : p.run (lexemes us) = some q)
    (h : Blames stop q ts e) : Blames stop p (us ++ ts) e := by
  rcases h with ⟨vs, rest, r, rfl, hvs, hcolumn, hrefuses⟩
  refine ⟨us ++ vs, rest, r, by simp, ?_, hcolumn, hrefuses⟩
  rw [lexemes_append]
  exact Progress.run_trans hus hvs

/-- A token that fits can stand before. -/
theorem Blames.cons {p q : Progress} {t : Token} (ht : p.step t.lexeme = some q)
    (h : Blames stop q ts e) : Blames stop p (t :: ts) e := by
  have hone : p.run (lexemes [t]) = some q := by simp [ht]
  exact h.after hone

/-! ## After a type -/

namespace Progress

/-- After a type, a mark that does not go on with it is left to the bracket. -/
theorem step_after (ha : a.IsAfter) {c : Char} (hc : c ∉ ['.', '<', '?']) (b : Bracket)
    (opened : List Bracket) : step ⟨a, b :: opened⟩ (.mark c) = b.step opened c := by
  simp only [List.mem_cons, List.not_mem_nil, or_false, not_or] at hc
  rcases hc with ⟨hdot, hangle, hquestion⟩
  rcases ha with rfl | rfl
  · simp [step, stepAfter, hdot, hangle, hquestion]
  · simp [step, stepAfter, hquestion]

/-- After a type, what goes on neither with it nor with the bracket around it does not fit. -/
theorem refuses_after (h : IsPassed us a rest) {opened : List Bracket}
    (hbracket : ∀ c, StartsWith c rest → ∀ b outer, opened = b :: outer → b.step outer c = none)
    (hsome : rest = [] → opened ≠ []) : Refuses ⟨a, opened⟩ rest := by
  cases rest with
  | nil =>
    -- At the end of the text only open brackets keep the type name from ending.
    exact fun haccepting => hsome rfl haccepting.1
  | cons t rest =>
    rcases t with ⟨column, w | c⟩
    · -- No word goes on with a type.
      rcases h.after with rfl | rfl
      · rfl
      · rfl
    · -- A mark is not `?`, so the bracket around the type decides.
      have hquestion : c ≠ '?' := by
        rintro rfl
        exact h.question ⟨column, rest, rfl⟩
      have hleft : stepAfter c opened = none := by
        unfold stepAfter
        rw [if_neg hquestion]
        cases opened with
        | nil => rfl
        | cons b outer => exact hbracket c ⟨column, rest, rfl⟩ b outer rfl
      rcases h.after with rfl | rfl
      · -- After a name the mark is neither `.` nor `<` either.
        have hends := h.name rfl
        have hdot : c ≠ '.' := by
          rintro rfl
          exact hends.dot ⟨column, rest, rfl⟩
        have hangle : c ≠ '<' := by
          rintro rfl
          exact hends.angle ⟨column, rest, rfl⟩
        show step _ (.mark c) = none
        simp [step, hdot, hangle, hleft]
      · exact hleft

end Progress

/-! ## What is read -/

/-- Names after dots lead from the end of a name to the end of a name. -/
theorem IsNested.run {ls : List Lexeme} {names : List String} (h : IsNested ls names)
    (opened : List Bracket) :
    Progress.run ⟨.afterName, opened⟩ ls = some ⟨.afterName, opened⟩ := by
  induction h with
  | nil => rfl
  | @dot w ls names hw _ ih =>
    have hdot : Progress.step ⟨.afterName, opened⟩ (.mark '.') = some ⟨.name, opened⟩ := rfl
    have hname : Progress.step ⟨.name, opened⟩ (.word w) = some ⟨.afterName, opened⟩ := if_pos hw
    rw [Progress.run_cons, hdot, Option.bind_some, Progress.run_cons, hname]
    exact ih

/-- A dotted name leads to the end of a name. -/
theorem IsDeclared.run {ls : List Lexeme} {n : DeclaredName} (h : IsDeclared ls n)
    (opened : List Bracket) :
    Progress.run ⟨.type, opened⟩ ls = some ⟨.afterName, opened⟩ := by
  cases h with
  | @names w ls names hw hnested =>
    have hname : Progress.step ⟨.type, opened⟩ (.word w) = some ⟨.afterName, opened⟩ := if_pos hw
    rw [Progress.run_cons, hname]
    exact hnested.run opened

/-- The question marks after a type are all taken. -/
theorem wrapOptional_run (ts : List Token) (t : TypeName) : ∃ us,
    ts = us ++ (wrapOptional t ts).2 ∧ ¬ StartsWith '?' (wrapOptional t ts).2 ∧
      (us = [] ∨ ∀ a opened, Awaited.IsAfter a →
        Progress.run ⟨a, opened⟩ (lexemes us) = some ⟨.afterType, opened⟩) := by
  induction ts generalizing t with
  | nil => exact ⟨[], rfl, not_startsWith_nil, .inl rfl⟩
  | cons q ts ih =>
    by_cases hmark : StartsWith '?' (q :: ts)
    · -- One `?` more: it can follow a name or a type, and a type is behind it.
      rcases hmark with ⟨column, us, hstart⟩
      cases hstart
      rcases ih (.optional t) with ⟨us, hsplit, hstop, hrun⟩
      refine ⟨⟨column, .mark '?'⟩ :: us, congrArg (⟨column, .mark '?'⟩ :: ·) hsplit, hstop, .inr ?_⟩
      intro a opened ha
      have hquestion : Progress.step ⟨a, opened⟩ (.mark '?') = some ⟨.afterType, opened⟩ := by
        rcases ha with rfl | rfl
        · rfl
        · rfl
      rw [lexemes_cons, Progress.run_cons, hquestion, Option.bind_some]
      rcases hrun with rfl | hmore
      · rfl
      · exact hmore .afterType opened (.inr rfl)
    · rw [wrapOptional_eq_self hmark]
      exact ⟨[], rfl, hmark, .inl rfl⟩

/-- After a type in a bracket, a mark does to the bracket what it does there. -/
theorem IsPassed.run_mark (h : IsPassed us a rest) {c : Char} (hc : c ∉ ['.', '<', '?'])
    (b : Bracket) (opened : List Bracket) :
    Progress.run ⟨.type, b :: opened⟩ (lexemes us ++ [.mark c]) = b.step opened c := by
  rw [Progress.run_append, h.run, Option.bind_some, Progress.run_cons,
    Progress.step_after h.after hc]
  cases b.step opened c <;> rfl

/-- What the parser reads with the fuel leads to the end of a type, or of generic arguments. -/
structure Traces (stop fuel : Nat) : Prop where
  type : ∀ {ts t rest}, parseType stop fuel ts = .ok (t, rest) →
    ∃ us a, ts = us ++ rest ∧ IsPassed us a rest
  arguments : ∀ {ts as rest}, parseArguments stop fuel ts = .ok (as, rest) →
    ∃ us, ts = us ++ rest ∧ ∀ opened,
      Progress.run ⟨.type, .arguments :: opened⟩ (lexemes us) = some ⟨.afterType, opened⟩

/-- A primary type that is read leads to the end of a type if its parts do. -/
theorem Traces.primary (htraces : Traces stop fuel) {t : TypeName}
    (h : PrimaryRead stop fuel ts t rest) :
    ∃ us a, ts = us ++ rest ∧ a.IsAfter ∧ (a = .afterName → NameEnds rest) ∧
      ∀ opened, Progress.run ⟨.type, opened⟩ (lexemes us) = some ⟨a, opened⟩ := by
  cases h with
  | @array first last ts t rest h =>
    -- `[T]`
    rcases htraces.type h with ⟨us, a, rfl, hpassed⟩
    refine ⟨⟨first, .mark '['⟩ :: (us ++ [⟨last, .mark ']'⟩]), .afterType, by simp, .inr rfl,
      by simp, fun opened => ?_⟩
    rw [lexemes_cons, lexemes_append]
    exact hpassed.run_mark (by decide) .element opened
  | @dictionary first middle last ts k us v rest hk hv =>
    -- `[K: V]`: up to the colon the bracket holds the key, after it the value.
    rcases htraces.type hk with ⟨ks, a, rfl, hkey⟩
    rcases htraces.type hv with ⟨vs, a', rfl, hvalue⟩
    refine ⟨⟨first, .mark '['⟩ :: ((ks ++ [⟨middle, .mark ':'⟩]) ++ (vs ++ [⟨last, .mark ']'⟩])),
      .afterType, by simp, .inr rfl, by simp, fun opened => ?_⟩
    rw [lexemes_cons, lexemes_append, lexemes_append, lexemes_append]
    have hcolon := hkey.run_mark (c := ':') (by decide) .element opened
    have hclose := hvalue.run_mark (c := ']') (by decide) .value opened
    exact Progress.run_trans hcolon hclose
  | declared h hstop =>
    -- a dotted name with no `<` after it
    rcases parseDeclared_eq_ok_iff.1 h with ⟨us, rfl, hdeclared, hdot⟩
    exact ⟨us, .afterName, rfl, .inl rfl, fun _ => ⟨hdot, hstop⟩, hdeclared.run⟩
  | @parameterized ts n column us as rest hn hs =>
    -- a dotted name and its generic arguments
    rcases parseDeclared_eq_ok_iff.1 hn with ⟨ns, rfl, hdeclared, -⟩
    rcases htraces.arguments hs with ⟨vs, rfl, hrun⟩
    refine ⟨ns ++ ⟨column, .mark '<'⟩ :: vs, .afterType, by simp, .inr rfl, by simp,
      fun opened => ?_⟩
    rw [lexemes_append, lexemes_cons]
    exact Progress.run_trans (hdeclared.run opened) (hrun opened)

/-- Whatever the fuel, what the parser reads leads to the end of a type. -/
theorem traces : ∀ fuel, Traces stop fuel := by
  intro fuel
  induction fuel with
  | zero =>
    -- Without fuel nothing is read.
    constructor
    · intro ts t rest h
      cases h
    · intro ts as rest h
      cases h
  | succ fuel ih =>
    constructor
    · intro ts t rest h
      -- a primary type, then the question marks after it
      rcases parseType_eq_ok_iff.1 h with ⟨p, after, hprimary, hwrap⟩
      rcases ih.primary hprimary with ⟨us, a, rfl, hafter, hname, hrun⟩
      rcases wrapOptional_run after p with ⟨marks, hsplit, hstop, hmarks⟩
      rw [hwrap] at hsplit hstop
      rcases hmarks with rfl | hmarks
      · rw [List.nil_append] at hsplit
        subst hsplit
        exact ⟨us, a, rfl, hafter, hrun, hstop, hname⟩
      · refine ⟨us ++ marks, .afterType, by rw [List.append_assoc, ← hsplit], .inr rfl, ?_, hstop,
          by simp⟩
        intro opened
        rw [lexemes_append]
        exact Progress.run_trans (hrun opened) (hmarks a opened hafter)
    · intro ts as rest h
      -- an argument, then `>` or a comma and the arguments after it
      cases parseArguments_eq_ok_iff.1 h with
      | @last t column _ hlast =>
        rcases ih.type hlast with ⟨us, a, rfl, hpassed⟩
        refine ⟨us ++ [⟨column, .mark '>'⟩], by simp, fun opened => ?_⟩
        rw [lexemes_append]
        exact hpassed.run_mark (by decide) .arguments opened
      | @more t column vs as _ hfirst hs =>
        rcases ih.type hfirst with ⟨us, a, rfl, hpassed⟩
        rcases ih.arguments hs with ⟨ws, rfl, hrun⟩
        refine ⟨(us ++ [⟨column, .mark ','⟩]) ++ ws, by simp, fun opened => ?_⟩
        have hcomma := hpassed.run_mark (c := ',') (by decide) .arguments opened
        rw [lexemes_append, lexemes_append]
        exact Progress.run_trans hcomma (hrun opened)

/-! ## What is refused -/

/-- A mark that is missing is missed at the next token. -/
theorem parseMark_error {mark : Char} (h : parseMark stop mark ts = .error e) :
    e.column = nextColumn stop ts ∧ ¬ StartsWith mark ts := by
  unfold parseMark at h
  split at h
  · split at h
    · cases h
    · next hmark =>
      cases h
      exact ⟨rfl, not_startsWith_cons (by simpa using hmark)⟩
  · next hmark =>
    cases h
    refine ⟨rfl, ?_⟩
    rintro ⟨column, us, rfl⟩
    exact hmark column mark us rfl

/-- An identifier that is missing is missed at the next token. -/
theorem parseIdentifier_error (h : parseIdentifier stop ts = .error e) (opened : List Bracket) :
    e.column = nextColumn stop ts ∧ Progress.Refuses ⟨.name, opened⟩ ts ∧
      (¬ StartsWith '[' ts → Progress.Refuses ⟨.type, opened⟩ ts) := by
  unfold parseIdentifier at h
  split at h
  · next column w us =>
    split at h
    · next hdigit =>
      -- a word that starts with a digit
      have hw : ¬ IsIdentifier w := by
        rw [isIdentifier_iff, hdigit]
        decide
      cases h
      exact ⟨rfl, if_neg hw, fun _ => if_neg hw⟩
    · cases h
  · next hword =>
    -- no word at all: the text ends, or a mark stands there
    cases h
    refine ⟨rfl, ?_, ?_⟩
    · rcases ts with _ | ⟨⟨column, w | c⟩, us⟩
      · rintro ⟨-, hafter | hafter⟩ <;> cases hafter
      · exact absurd rfl (hword column w us)
      · rfl
    · -- Where a type is awaited, `[` is the one mark that would fit.
      intro hbracket
      rcases ts with _ | ⟨⟨column, w | c⟩, us⟩
      · rintro ⟨-, hafter | hafter⟩ <;> cases hafter
      · exact absurd rfl (hword column w us)
      · refine if_neg ?_
        rintro rfl
        exact hbracket ⟨column, us, rfl⟩

/-- Names after dots are refused where one is missing. -/
theorem parseNested_blames (opened : List Bracket) :
    parseNested stop ts = .error e → Blames stop ⟨.afterName, opened⟩ ts e := by
  have hdot : Progress.step ⟨.afterName, opened⟩ (.mark '.') = some ⟨.name, opened⟩ := rfl
  induction ts using parseNested.induct with
  | case1 column column' w ts ih =>
    -- a dot and a word: the word is no identifier, or the names after it are refused
    intro h
    simp only [parseNested, bind_eq_error_iff] at h
    rcases h with hname | ⟨⟨name, after⟩, hname, hmore⟩
    · refine Blames.cons hdot (blames_here ?_ ?_)
      · exact (parseIdentifier_error hname opened).1
      · exact (parseIdentifier_error hname opened).2.1
    · rcases parseIdentifier_eq_ok_iff.1 hname with ⟨_, w', hw', hidentifier, rfl⟩
      cases hw'
      have hstep : Progress.step ⟨.name, opened⟩ (.word w) = some ⟨.afterName, opened⟩ :=
        if_pos hidentifier
      rcases hmore with hmore | ⟨_, -, hpure⟩
      · exact Blames.cons hdot (Blames.cons hstep (ih hmore))
      · cases hpure
  | case2 column ts hword =>
    -- a dot with no word after it
    intro h
    rw [parseNested] at h
    · cases h
      refine Blames.cons hdot (blames_here rfl ?_)
      rcases ts with _ | ⟨⟨column', w | c⟩, us⟩
      · rintro ⟨-, hafter | hafter⟩ <;> cases hafter
      · exact absurd rfl (hword column' w us)
      · rfl
    · exact hword
  | case3 ts hword hmark =>
    -- no dot: nothing is refused
    intro h
    rw [parseNested] at h
    · cases h
    · exact hword
    · exact hmark

/-- A dotted name is refused where a name is missing. -/
theorem parseDeclared_blames (hbracket : ¬ StartsWith '[' ts)
    (h : parseDeclared stop ts = .error e) (opened : List Bracket) :
    Blames stop ⟨.type, opened⟩ ts e := by
  simp only [parseDeclared, bind_eq_error_iff] at h
  rcases h with hname | ⟨⟨name, after⟩, hname, hmore | ⟨_, -, hpure⟩⟩
  · -- The first name is refused.
    rcases parseIdentifier_error hname opened with ⟨hcolumn, -, hrefuses⟩
    exact blames_here hcolumn (hrefuses hbracket)
  · -- The first name fits, and a name after a dot is refused.
    rcases parseIdentifier_eq_ok_iff.1 hname with ⟨column, w, rfl, hw, rfl⟩
    have hstep : Progress.step ⟨.type, opened⟩ (.word w) = some ⟨.afterName, opened⟩ := if_pos hw
    exact Blames.cons hstep (parseNested_blames opened hmore)
  · cases hpure

/-- What the parser refuses with the fuel, and not for want of fuel, it refuses at a token that does
not fit. -/
structure Refusals (stop fuel : Nat) : Prop where
  type : ∀ {ts e}, parseType stop fuel ts = .error e → e.problem ≠ .nothing →
    ∀ opened, Blames stop ⟨.type, opened⟩ ts e
  arguments : ∀ {ts e}, parseArguments stop fuel ts = .error e → e.problem ≠ .nothing →
    ∀ opened, Blames stop ⟨.type, .arguments :: opened⟩ ts e

/-- Where a closing mark is missing after a type, the next token goes on with nothing. -/
theorem blames_closing (h : IsPassed us a rest) {b : Bracket} {mark : Char}
    (hmark : parseMark stop mark rest = .error e) {opened : List Bracket}
    (hothers : ∀ c, StartsWith c rest → c ≠ mark → b.step opened c = none) :
    Blames stop ⟨.type, b :: opened⟩ (us ++ rest) e := by
  rcases parseMark_error hmark with ⟨hcolumn, hmissing⟩
  refine Blames.after (h.run _) (blames_here hcolumn (Progress.refuses_after h ?_ (by simp)))
  rintro c hc b outer hopened
  cases hopened
  refine hothers c hc ?_
  rintro rfl
  exact hmissing hc

/-- A mark after a type fits, and what follows it is refused. -/
theorem Blames.after_mark (h : IsPassed us a rest) {column : Nat} {c : Char}
    (hc : c ∉ ['.', '<', '?']) {b : Bracket} {opened : List Bracket} {q : Progress}
    (hstep : b.step opened c = some q) (hblames : Blames stop q ts e) :
    Blames stop ⟨.type, b :: opened⟩ (us ++ ⟨column, .mark c⟩ :: ts) e := by
  have hrun : Progress.run ⟨.type, b :: opened⟩ (lexemes (us ++ [⟨column, .mark c⟩])) = some q := by
    rw [lexemes_append, ← hstep]
    exact h.run_mark hc b opened
  have hafter := hblames.after hrun
  rwa [List.append_assoc] at hafter

/-- A type is refused at a token that does not fit, if with one unit of fuel less types and generic
arguments are. -/
theorem Refusals.type_succ (hrefusals : Refusals stop fuel)
    (h : parseType stop (fuel + 1) ts = .error e) (hproblem : e.problem ≠ .nothing)
    (opened : List Bracket) : Blames stop ⟨.type, opened⟩ ts e := by
  by_cases hbracket : StartsWith '[' ts
  · -- `[` fits, and what is in the bracket is refused.
    rcases hbracket with ⟨column, us, rfl⟩
    have hopen : Progress.step ⟨.type, opened⟩ (.mark '[') = some ⟨.type, .element :: opened⟩ := rfl
    refine Blames.cons hopen ?_
    simp only [parseType, bind_eq_error_iff] at h
    rcases h with hfirst | ⟨⟨first, after⟩, hfirst, h⟩
    · -- the element or the key
      exact hrefusals.type hfirst hproblem _
    · rcases (traces fuel).type hfirst with ⟨ks, a, rfl, hkey⟩
      dsimp only at h
      split at h
      · next middle vs =>
        -- a colon after the key
        simp only [bind_eq_error_iff] at h
        refine Blames.after_mark (q := ⟨.type, .value :: opened⟩) hkey (by decide) rfl ?_
        rcases h with hvalue | ⟨⟨value, after⟩, hvalue, hmark | ⟨_, -, hpure⟩⟩
        · -- the value
          exact hrefusals.type hvalue hproblem _
        · -- the closing bracket after the value
          rcases (traces fuel).type hvalue with ⟨vs, a', rfl, hpassed⟩
          refine blames_closing hpassed hmark fun c _ hc => ?_
          exact if_neg hc
        · cases hpure
      · next hcolon =>
        -- no colon: the closing bracket of an array is missing
        simp only [bind_eq_error_iff] at h
        rcases h with hmark | ⟨_, -, hpure⟩
        · refine blames_closing hkey hmark fun c hstart hc => ?_
          -- The colon would have fitted as well, but it is not there.
          have hother : c ≠ ':' := by
            rintro rfl
            rcases hstart with ⟨column, vs, hstart⟩
            exact hcolon column vs hstart
          exact (if_neg hc).trans (if_neg hother)
        · cases hpure
  · -- no bracket: a dotted name, with generic arguments if `<` follows
    rw [parseType] at h
    · simp only [bind_eq_error_iff] at h
      rcases h with hraw | ⟨⟨raw, after⟩, hraw, h⟩
      · -- the name
        exact parseDeclared_blames hbracket hraw opened
      · rcases parseDeclared_eq_ok_iff.1 hraw with ⟨ns, rfl, hdeclared, -⟩
        dsimp only at h
        split at h
        · next column vs =>
          -- the arguments
          simp only [bind_eq_error_iff] at h
          rcases h with harguments | ⟨_, -, hpure⟩
          · have hangle : Progress.step ⟨.afterName, opened⟩ (.mark '<') =
                some ⟨.type, .arguments :: opened⟩ := rfl
            exact Blames.after (hdeclared.run opened)
              (Blames.cons hangle (hrefusals.arguments harguments hproblem opened))
          · cases hpure
        · cases h
    · rintro column us rfl
      exact hbracket ⟨column, us, rfl⟩

/-- Generic arguments are refused at a token that does not fit, if with one unit of fuel less types
and generic arguments are. -/
theorem Refusals.arguments_succ (hrefusals : Refusals stop fuel)
    (h : parseArguments stop (fuel + 1) ts = .error e) (hproblem : e.problem ≠ .nothing)
    (opened : List Bracket) : Blames stop ⟨.type, .arguments :: opened⟩ ts e := by
  simp only [parseArguments, bind_eq_error_iff] at h
  rcases h with hargument | ⟨⟨argument, after⟩, hargument, h⟩
  · -- the first argument
    exact hrefusals.type hargument hproblem _
  · rcases (traces fuel).type hargument with ⟨us, a, rfl, hpassed⟩
    dsimp only at h
    split at h
    · next column vs =>
      -- the arguments after a comma
      simp only [bind_eq_error_iff] at h
      refine Blames.after_mark (q := ⟨.type, .arguments :: opened⟩) hpassed (by decide) rfl ?_
      rcases h with hmore | ⟨_, -, hpure⟩
      · exact hrefusals.arguments hmore hproblem opened
      · cases hpure
    · next hcomma =>
      -- no comma: the closing mark is missing
      simp only [bind_eq_error_iff] at h
      rcases h with hmark | ⟨_, -, hpure⟩
      · refine blames_closing hpassed hmark fun c hstart hc => ?_
        have hother : c ≠ ',' := by
          rintro rfl
          rcases hstart with ⟨column, vs, hstart⟩
          exact hcomma column vs hstart
        exact (if_neg hc).trans (if_neg hother)
      · cases hpure

/-- Whatever the fuel, what the parser refuses it refuses at a token that does not fit. -/
theorem refusals : ∀ fuel, Refusals stop fuel := by
  intro fuel
  induction fuel with
  | zero =>
    constructor
    · intro ts e h hproblem
      cases h
      exact absurd rfl hproblem
    · intro ts e h hproblem
      cases h
      exact absurd rfl hproblem
  | succ fuel ih =>
    constructor
    · intro ts e h hproblem opened
      exact ih.type_succ h hproblem opened
    · intro ts e h hproblem opened
      exact ih.arguments_succ h hproblem opened

end SwiftDecl.TypeName
