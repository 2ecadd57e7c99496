import SwiftDecl.Proofs.TypeName.Acceptance
import SwiftDecl.Proofs.TypeName.Progress

/-!
# Where the errors of the parser point

The column of an error is the first that is wrong: what stands before it can be completed to a text
that the parser accepts, and with the character in it that is no longer possible
(`parse_error_column`). For the tokens this is said by the way that the parser goes
(`parseChars_blames`). For the characters it remains to cut a text in front of a token: the tokens
before it are those of the characters before it (`exists_scan_split`), and the first character alone
decides how a token can start (`exists_scan_first`).
-/

namespace SwiftDecl.TypeName

variable {cs ds : List Char} {us rest : List Token} {t : Token} {e : ParseError} {column : Nat}

/-! ## Tokens and their places -/

/-- No word goes on from the first characters to the others. -/
def Apart (cs ds : List Char) : Prop :=
  ∀ c d, cs.getLast? = some c → ds.head? = some d → Text.isWordChar c = true →
    Text.isWordChar d = false

/-- What does not start with a character of a word stands apart from everything. -/
theorem apart_of_head (h : ∀ d, ds.head? = some d → Text.isWordChar d = false) : Apart cs ds :=
  fun _ d _ hd _ => h d hd

/-- White space stands apart from everything. -/
theorem apart_of_blank (h : ∀ c ∈ cs, Text.isBlank c = true) : Apart cs ds := by
  intro c d hc _ hword
  rw [not_isWordChar_of_isBlank (h c (List.mem_of_getLast? hc))] at hword
  cases hword

/-- Whether characters stand apart is decided by the first of the others. -/
theorem Apart.of_head (h : Apart cs ds) {es : List Char}
    (hhead : ∀ d, es.head? = some d → ds.head? = some d) : Apart cs es :=
  fun c d hc hd => h c d hc (hhead d hd)

theorem Apart.tail {c : Char} (h : Apart (c :: cs) ds) : Apart cs ds := by
  intro b d hb
  refine h b d ?_
  rw [List.getLast?_cons, hb]
  rfl

/-- Characters that are a word together or white space stand apart as the last of them do. -/
theorem Apart.append {fs : List Char} (h : Apart cs ds) (hnil : cs = [] → Apart fs ds) :
    Apart (fs ++ cs) ds := by
  intro c d hc hd hword
  cases hlast : cs.getLast? with
  | none =>
    obtain rfl : cs = [] := List.getLast?_eq_none_iff.1 hlast
    rw [List.append_nil] at hc
    exact hnil rfl c d hc hd hword
  | some b =>
    rw [List.getLast?_append, hlast, Option.some_or] at hc
    exact h c d (hlast.trans hc) hd hword

/-- A character of a word goes before the first of several tokens. -/
theorem glue_append {c : Char} (hsome : us ≠ []) :
    Token.glue column c (us ++ rest) = Token.glue column c us ++ rest := by
  rcases us with _ | ⟨⟨next, w | d⟩, us⟩
  · exact absurd rfl hsome
  · simp only [List.cons_append, Token.glue]
    split <;> rfl
  · rfl

/-- The tokens of characters that stand apart are the tokens of the one and of the others. -/
theorem scan_append (h : Apart cs ds) (column : Nat) :
    Token.scan column (cs ++ ds) = Token.scan column cs ++ Token.scan (column + cs.length) ds := by
  induction cs generalizing column with
  | nil => rfl
  | cons c cs ih =>
    have hrest := ih h.tail (column + 1)
    have hlength : column + (c :: cs).length = column + 1 + cs.length := by
      rw [List.length_cons]
      omega
    rw [List.cons_append, hlength]
    by_cases hblank : Text.isBlank c = true
    · rw [scan_blank hblank, scan_blank hblank, hrest]
    · rw [Bool.not_eq_true] at hblank
      by_cases hword : Text.isWordChar c = true
      · rw [scan_wordChar hword, scan_wordChar hword, hrest]
        by_cases hnone : Token.scan (column + 1) cs = []
        · rw [hnone, List.nil_append]
          apply glue_of_no_word
          intro w vs hscan
          -- A word at the next column would go on with the character.
          have hin : (⟨column + 1, .word w⟩ : Token) ∈
              Token.scan (column + 1 + cs.length) ds := by
            rw [hscan]
            exact List.mem_cons_self
          have hle : column + 1 + cs.length ≤ column + 1 := column_le_of_mem_scan hin
          obtain rfl : cs = [] := List.length_eq_zero_iff.1 (by omega)
          rcases wordChar_of_scan hscan with ⟨d, hd, hwordd⟩
          rw [h c d rfl hd hword] at hwordd
          cases hwordd
        · -- The character goes on with the first word of the characters that stand apart.
          exact glue_append hnone
      · rw [Bool.not_eq_true] at hword
        rw [scan_mark hblank hword, scan_mark hblank hword, hrest]
        rfl

/-- Two lexemes that start with the same character, and are both words or both marks. -/
def Lexeme.Alike : Lexeme → Lexeme → Prop
  | word v, word w => v.head? = w.head?
  | mark c, mark d => c = d
  | _, _ => False

/-- Words that start alike are both identifiers or both none, so lexemes that start alike fit
alike. -/
theorem Progress.step_eq_none_of_alike {p : Progress} {l m : Lexeme} (halike : l.Alike m)
    (h : p.step l = none) : p.step m = none := by
  rcases l with v | c
  · rcases m with w | d
    · have hhead : v.head? = w.head? := halike
      have hsame : IsIdentifier v ↔ IsIdentifier w := by
        rw [isIdentifier_iff, isIdentifier_iff, hhead]
      rcases p with ⟨_ | _ | _ | _, opened⟩
      · simpa [step, hsame] using h
      · simpa [step, hsame] using h
      · rfl
      · rfl
    · exact halike.elim
  · rcases m with w | d
    · exact halike.elim
    · have hsame : c = d := halike
      rwa [← hsame]

/-- A text that starts with a character of a word starts with a word. -/
theorem exists_scan_word {d : Char} (hword : Text.isWordChar d = true) (column : Nat)
    (cs : List Char) :
    ∃ w us, Token.scan column (d :: cs) = ⟨column, .word (d :: w)⟩ :: us := by
  rw [scan_wordChar hword]
  unfold Token.glue
  split
  · split
    · exact ⟨_, _, rfl⟩
    · exact ⟨[], _, rfl⟩
  · exact ⟨[], _, rfl⟩

/-- Where a token starts, the first character decides how it starts, whatever follows. -/
theorem exists_scan_first {d : Char} (h : Token.scan column (d :: cs) = t :: rest)
    (hcolumn : t.column = column) (ds : List Char) :
    ∃ s us, Token.scan column (d :: ds) = s :: us ∧ t.lexeme.Alike s.lexeme := by
  by_cases hblank : Text.isBlank d = true
  · rw [scan_blank hblank] at h
    have hin : t ∈ Token.scan (column + 1) cs := by
      rw [h]
      exact List.mem_cons_self
    have hlater : column + 1 ≤ t.column := column_le_of_mem_scan hin
    omega
  · by_cases hword : Text.isWordChar d = true
    · rcases exists_scan_word hword column cs with ⟨v, vs, hv⟩
      rcases exists_scan_word hword column ds with ⟨w, ws, hw⟩
      cases hv.symm.trans h
      exact ⟨_, ws, hw, rfl⟩
    · rw [Bool.not_eq_true] at hblank hword
      rw [scan_mark hblank hword] at h
      cases h
      exact ⟨_, _, scan_mark hblank hword column ds, rfl⟩

/-- A token is cut off: white space, the characters of the token, and what its word does not go on
with. -/
structure IsFirst (t : Token) (column : Nat) (cs blanks back : List Char) : Prop where
  text : cs = blanks ++ (t.lexeme.chars ++ back)
  blank : ∀ c ∈ blanks, Text.isBlank c = true
  column : t.column = column + blanks.length
  nonempty : t.lexeme.chars ≠ []
  alone : Token.scan t.column t.lexeme.chars = [t]
  apart : Apart t.lexeme.chars back

/-- The first token of a text is cut off, and the others are those of the characters after it. -/
theorem exists_scan_cons (h : Token.scan column cs = t :: rest) :
    ∃ blanks back, IsFirst t column cs blanks back ∧
      rest = Token.scan (t.column + t.lexeme.chars.length) back := by
  induction cs generalizing column with
  | nil => cases h
  | cons c cs ih =>
    by_cases hblank : Text.isBlank c = true
    · rw [scan_blank hblank] at h
      -- White space goes before the token.
      rcases ih h with ⟨blanks, back, hfirst, hrest⟩
      refine ⟨c :: blanks, back, ⟨?_, ?_, ?_, hfirst.nonempty, hfirst.alone, hfirst.apart⟩, hrest⟩
      · rw [hfirst.text]
        rfl
      · exact List.forall_mem_cons.2 ⟨hblank, hfirst.blank⟩
      · rw [hfirst.column, List.length_cons]
        omega
    · by_cases hword : Text.isWordChar c = true
      · -- A word is cut off as long as it is, so what follows does not go on with it.
        rcases exists_longest_word hword cs with ⟨w, back, hsplit, hne, hw, hmax⟩
        rw [← hsplit, scan_word hne hw hmax] at h
        cases h
        have halone : Token.scan column w = [⟨column, .word w⟩] := by
          have hend : ∀ d, ([] : List Char).head? = some d → Text.isWordChar d = false := by simp
          have hscan := scan_word hne hw hend column
          rwa [List.append_nil] at hscan
        exact ⟨[], back, ⟨hsplit.symm, by simp, rfl, hne, halone, apart_of_head hmax⟩, rfl⟩
      · rw [Bool.not_eq_true] at hblank hword
        rw [scan_mark hblank hword] at h
        cases h
        -- A mark is no character of a word, so nothing goes on with it.
        have happart : Apart [c] cs := by
          intro b d hb _ hwordb
          have hsame : b = c := by simpa using hb.symm
          rw [hsame, hword] at hwordb
          cases hwordb
        have halone : Token.scan column [c] = [⟨column, .mark c⟩] :=
          scan_mark hblank hword column []
        exact ⟨[], cs, ⟨rfl, by simp, rfl, by simp [Lexeme.chars], halone, happart⟩, rfl⟩

/-- A text is cut in front of a token: the tokens before are those of the characters before. -/
theorem exists_scan_split (h : Token.scan column cs = us ++ t :: rest) :
    ∃ front d back, cs = front ++ d :: back ∧ t.column = column + front.length ∧
      Apart front (d :: back) ∧ Token.scan column front = us ∧
      Token.scan t.column (d :: back) = t :: rest := by
  induction us generalizing column cs with
  | nil =>
    rcases exists_scan_cons h with ⟨blanks, back, hfirst, hrest⟩
    have hnone : Token.scan column blanks = [] := (scan_eq_nil_iff column).2 hfirst.blank
    have hscan := scan_append hfirst.apart t.column
    rw [hfirst.alone, ← hrest] at hscan
    -- The token is the first one: before it is white space, and its first character is cut off.
    cases hchars : t.lexeme.chars with
    | nil => exact absurd hchars hfirst.nonempty
    | cons d w =>
      rw [hchars] at hscan
      refine ⟨blanks, d, w ++ back, ?_, hfirst.column, apart_of_blank hfirst.blank, hnone, hscan⟩
      rw [hfirst.text, hchars]
      rfl
  | cons u us ih =>
    rcases exists_scan_cons h with ⟨blanks, back, hfirst, hrest⟩
    -- A token more before the cut stands apart from what comes after it.
    rcases ih hrest.symm with ⟨front, d, after, rfl, hcolumn, hapart, hfront, hscan⟩
    have hword : Apart u.lexeme.chars front := by
      refine hfirst.apart.of_head fun d hd => ?_
      rw [List.head?_append, hd]
      rfl
    refine ⟨blanks ++ (u.lexeme.chars ++ front), d, after, ?_, ?_, ?_, ?_, hscan⟩
    · rw [hfirst.text]
      simp
    · rw [hcolumn, hfirst.column]
      simp only [List.length_append]
      omega
    · refine Apart.append ?_ fun hnil => absurd (List.append_eq_nil_iff.1 hnil).1 hfirst.nonempty
      refine hapart.append fun hnil => ?_
      have hthere := hfirst.apart
      rwa [hnil] at hthere
    · have hnone : Token.scan column blanks = [] := (scan_eq_nil_iff column).2 hfirst.blank
      rw [scan_append (apart_of_blank hfirst.blank), hnone, List.nil_append, ← hfirst.column,
        scan_append hword, hfirst.alone, hfront]
      simp

/-! ## Whole texts -/

/-- The tokens of an accepted text all fit. -/
theorem exists_run_of_parseChars {type : TypeName} (h : parseChars cs = .ok type) :
    ∃ p, Progress.start.run (lexemes (Token.scan 1 cs)) = some p := by
  rcases (traces _).type (parseChars_eq_ok_iff.1 h) with ⟨us, a, hsplit, hpassed⟩
  rw [List.append_nil] at hsplit
  rw [hsplit]
  exact ⟨_, hpassed.run []⟩

/-- A refused text is refused at a token that does not fit, or at its end. -/
theorem parseChars_blames (h : parseChars cs = .error e) :
    Blames (cs.length + 1) .start (Token.scan 1 cs) e := by
  unfold parseChars at h
  cases hscan : Token.scan 1 cs with
  | nil =>
    rw [hscan] at h
    cases h
    refine blames_here rfl ?_
    rintro ⟨-, hafter | hafter⟩ <;> cases hafter
  | cons first ts =>
    rw [hscan] at h
    simp only [List.isEmpty_cons, Bool.false_eq_true, if_false, bind_eq_error_iff] at h
    rcases h with htype | ⟨⟨type, rest⟩, htype, hleft⟩
    · -- The type is refused, and not for want of fuel.
      have hproblem := (enough _).type (first :: ts) (Nat.lt_succ_self _) e htype
      exact (refusals _).type htype hproblem []
    · rcases (traces _).type htype with ⟨us, a, hsplit, hpassed⟩
      rw [hsplit]
      -- The type is read, and a token is left over that goes on with nothing.
      cases rest with
      | nil => cases hleft
      | cons t rest =>
        cases hleft
        refine Blames.after (hpassed.run []) (blames_here rfl ?_)
        exact Progress.refuses_after hpassed (by simp) (by simp)

/-- A text whose tokens all fit is accepted where the type name can end. -/
theorem exists_parseChars_of_run {p : Progress}
    (hrun : Progress.start.run (lexemes (Token.scan 1 cs)) = some p) (hp : p.Accepting) :
    ∃ type, parseChars cs = .ok type := by
  cases hparsed : parseChars cs with
  | ok type => exact ⟨type, rfl⟩
  | error e =>
    rcases parseChars_blames hparsed with ⟨us, rest, q, hsplit, hq, -, hrefuses⟩
    rw [hsplit, lexemes_append, Progress.run_append, hq, Option.bind_some] at hrun
    cases rest with
    | nil =>
      cases hrun
      exact absurd hp hrefuses
    | cons t rest =>
      have hnone : q.step t.lexeme = none := hrefuses
      rw [lexemes_cons, Progress.run_cons, hnone] at hrun
      cases hrun

/-! ## Texts that can be completed -/

/-- Some text that the parser accepts starts with the characters. -/
def Viable (front : List Char) : Prop :=
  ∃ text type, parse text = .ok type ∧ front <+: text.toList

/-- What a shorter text starts with is viable if the longer is. -/
theorem Viable.of_front (h : Viable ds) (hle : cs <+: ds) : Viable cs := by
  rcases h with ⟨text, type, hparsed, hfront⟩
  exact ⟨text, type, hparsed, hle.trans hfront⟩

/-- The marks that close brackets are cut as they are written. -/
theorem cut_closers (opened : List Bracket) :
    Cut ((Progress.closers opened).flatMap Lexeme.chars) (Progress.closers opened) := by
  induction opened with
  | nil => exact .nil
  | cons b opened ih =>
    have hmark : isPunctuation b.closing = true := by cases b <;> rfl
    exact .mark hmark ih

/-- What completes a type name is cut as it is written. -/
theorem cut_completion (p : Progress) :
    Cut (p.completion.flatMap Lexeme.chars) p.completion := by
  unfold Progress.completion
  split
  · refine .word (w := ['T']) (by simp) (List.all_eq_true.1 rfl) ?_ (cut_closers p.opened)
    intro c hc
    cases hopened : p.opened with
    | nil =>
      rw [hopened] at hc
      cases hc
    | cons b opened =>
      rw [hopened] at hc
      cases b <;> cases hc <;> rfl
  · exact cut_closers p.opened

/-- Characters whose tokens all fit are viable: a space separates them from what completes the type
name. -/
theorem viable_of_run {p : Progress}
    (hrun : Progress.start.run (lexemes (Token.scan 1 cs)) = some p) : Viable cs := by
  rcases p.exists_completion with ⟨q, hq, haccepting⟩
  let more := ' ' :: p.completion.flatMap Lexeme.chars
  have hcut : Cut more p.completion := .blank rfl (cut_completion p)
  have hblank : Text.isWordChar ' ' = false := by decide
  have happart : Apart cs more := by
    refine apart_of_head fun d hd => ?_
    cases hd
    exact hblank
  have hwhole : Progress.start.run (lexemes (Token.scan 1 (cs ++ more))) = some q := by
    rw [scan_append happart, lexemes_append, hcut.lexemes_scan]
    exact Progress.run_trans hrun hq
  rcases exists_parseChars_of_run hwhole haccepting with ⟨type, hparsed⟩
  refine ⟨String.ofList (cs ++ more), type, ?_, ?_⟩
  · rw [parse, String.toList_ofList]
    exact hparsed
  · rw [String.toList_ofList]
    exact List.prefix_append cs more

/-- Characters up to the start of a token that does not fit are not viable. -/
theorem not_viable_of_refused {front : List Char} {d : Char} {p : Progress}
    (happart : Apart front (d :: ds))
    (hrun : Progress.start.run (lexemes (Token.scan 1 front)) = some p)
    (hscan : Token.scan (1 + front.length) (d :: ds) = t :: rest)
    (hcolumn : t.column = 1 + front.length) (hrefused : p.step t.lexeme = none) :
    ¬ Viable (front ++ [d]) := by
  rintro ⟨text, type, hparsed, more, htext⟩
  have hchars : text.toList = front ++ d :: more := by
    rw [← htext]
    simp
  have happart' : Apart front (d :: more) := happart.of_head fun c hc => hc
  rcases exists_scan_first hscan hcolumn more with ⟨s, us, hstart, halike⟩
  rw [parse, hchars] at hparsed
  rcases exists_run_of_parseChars hparsed with ⟨q, hq⟩
  have hnone := Progress.step_eq_none_of_alike halike hrefused
  rw [scan_append happart', hstart, lexemes_append, Progress.run_append, hrun, Option.bind_some,
    lexemes_cons, Progress.run_cons, hnone] at hq
  cases hq

/-- The column of an error points at the first wrong character: it lies between one and one after
the text, the characters before it are viable and, if there is one in it, they are not so with that
character. -/
theorem viable_before_error (h : parseChars cs = .error e) :
    1 ≤ e.column ∧ e.column ≤ cs.length + 1 ∧ Viable (cs.take (e.column - 1)) ∧
      (e.column ≤ cs.length → ¬ Viable (cs.take e.column)) := by
  rcases parseChars_blames h with ⟨us, rest, p, hsplit, hrun, hcolumn, hrefuses⟩
  cases rest with
  | nil =>
    -- All of the text fits, and the column is one after its end.
    have hend : e.column = cs.length + 1 := hcolumn
    rw [List.append_nil] at hsplit
    rw [← hsplit] at hrun
    refine ⟨by omega, by omega, ?_, fun hle => by omega⟩
    rw [hend, Nat.add_sub_cancel, List.take_length]
    exact viable_of_run hrun
  | cons t rest =>
    rcases exists_scan_split hsplit with ⟨front, d, back, rfl, ht, happart, hfront, hscan⟩
    -- The column is that of the first character of the token that does not fit.
    have hhere : e.column = front.length + 1 := by
      rw [hcolumn, nextColumn, ht, Nat.add_comm]
    rw [← hfront] at hrun
    refine ⟨by omega, ?_, ?_, fun _ => ?_⟩
    · rw [hhere]
      simp
    · rw [hhere, Nat.add_sub_cancel, List.take_left]
      exact viable_of_run hrun
    · have htake : (front ++ d :: back).take e.column = front ++ [d] := by
        rw [hhere, List.take_length_add_append]
        rfl
      rw [ht] at hscan
      rw [htake]
      exact not_viable_of_refused happart hrun hscan ht hrefuses

/-- The column of an error points at the first wrong character: it lies between one and one after
the text, some accepted text starts with the characters before it and, if it lies in the text, none
with those up to it. So it is one more than the length of the longest part, from the start of the
text, with which some accepted text starts. -/
theorem parse_error_column {text : String} (h : parse text = .error e) :
    (1 ≤ e.column ∧ e.column ≤ text.length + 1) ∧
      Viable (text.toList.take (e.column - 1)) ∧
      (e.column ≤ text.length → ¬ Viable (text.toList.take e.column)) ∧
      ∀ n ≤ text.length, (Viable (text.toList.take n) ↔ n + 1 ≤ e.column) := by
  rcases viable_before_error h with ⟨hfirst, hlast, hbefore, hwith⟩
  rw [String.length_toList] at hlast hwith
  refine ⟨⟨hfirst, hlast⟩, hbefore, hwith, fun n hn => ⟨fun hviable => ?_, fun hle => ?_⟩⟩
  · by_contra hmore
    have hlong : e.column ≤ n := by omega
    exact hwith (by omega) (hviable.of_front (List.take_prefix_take_left hlong))
  · exact hbefore.of_front (List.take_prefix_take_left (by omega))

/-- A digit at the start of a nested name: `[Set<Int.` can be completed, and nothing goes on with
the digit. -/
theorem parse_error_column_of_digit :
    let text := "[Set<Int. 4th>]"
    let e : ParseError := ⟨11, .leadingDigit "4th".toList⟩
    parse text = .error e ∧ Viable "[Set<Int. ".toList ∧ ¬ Viable "[Set<Int. 4".toList := by
  intro text e
  have herror : parse text = .error e := by decide +kernel
  have hten : text.toList.take (e.column - 1) = "[Set<Int. ".toList := by decide
  have heleven : text.toList.take e.column = "[Set<Int. 4".toList := by decide
  rcases parse_error_column herror with ⟨-, hbefore, hwith, -⟩
  rw [hten] at hbefore
  rw [heleven] at hwith
  exact ⟨herror, hbefore, hwith (by decide)⟩

end SwiftDecl.TypeName
