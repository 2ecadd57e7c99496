import SwiftDecl.Proofs.TypeName.Grammar

/-!
# The scan cuts a text

The tokens of a text are its one cut into lexemes, if all its marks are punctuation. The scan
builds a word from its end, one character in front of the tokens that follow. Whether the word
goes on is read from a column: the first token of a text can have the column of the text only if
the text starts with it.
-/

namespace SwiftDecl.TypeName

/-- The lexemes of tokens. -/
def lexemes (ts : List Token) : List Lexeme :=
  ts.map Token.lexeme

@[simp] theorem lexemes_nil : lexemes [] = [] :=
  rfl

@[simp] theorem lexemes_cons (t : Token) (ts : List Token) :
    lexemes (t :: ts) = t.lexeme :: lexemes ts :=
  rfl

@[simp] theorem lexemes_append (ts us : List Token) :
    lexemes (ts ++ us) = lexemes ts ++ lexemes us :=
  List.map_append

@[simp] theorem length_lexemes (ts : List Token) : (lexemes ts).length = ts.length :=
  List.length_map _

/-! ## Classes of characters -/

/-- Two lists of ranges have no member in common if each range of one lies before or after each
of the other. -/
theorem not_contains_of_disjoint {rs ss : Text.Ranges} {c : Char}
    (hdisjoint : ∀ r ∈ rs, ∀ s ∈ ss, r.2 < s.1 ∨ s.2 < r.1) (hc : rs.contains c = true) :
    ss.contains c = false := by
  obtain ⟨r, hr, hin⟩ := List.any_eq_true.1 hc
  simp only [Bool.and_eq_true, decide_eq_true_eq] at hin
  rw [Text.Ranges.contains, List.any_eq_false]
  intro s hs hboth
  simp only [Bool.and_eq_true, decide_eq_true_eq] at hboth
  rcases hdisjoint r hr s hs with hbefore | hafter
  · omega
  · omega

/-- The first characters up to the tilde are white space or letters and digits, not both. -/
theorem not_isAlphanum_of_isBlank :
    ∀ n < 128, Text.isBlank (Char.ofNat n) = true → (Char.ofNat n).isAlphanum = false := by
  decide

/-- No character is white space and part of a word. -/
theorem not_isWordChar_of_isBlank {c : Char} (hc : Text.isBlank c = true) :
    Text.isWordChar c = false := by
  have halphanumeric : Text.isAlphanumeric c = false := by
    unfold Text.isAlphanumeric
    split
    · next hascii =>
      have hlow : c.toNat < 128 := hascii
      have hchar : Char.ofNat c.toNat = c := Char.ofNat_toNat c
      have hsame := not_isAlphanum_of_isBlank c.toNat hlow
      rw [hchar] at hsame
      exact hsame hc
    · exact not_contains_of_disjoint (by decide +kernel) hc
  have hunderscore : c ≠ '_' := by
    rintro rfl
    cases hc
  simp [Text.isWordChar, halphanumeric, hunderscore]

/-- Punctuation is no white space. -/
theorem not_isBlank_of_isPunctuation {c : Char} (hc : isPunctuation c = true) :
    Text.isBlank c = false := by
  simp only [isPunctuation, List.mem_cons, List.not_mem_nil, or_false, decide_eq_true_eq] at hc
  rcases hc with rfl | rfl | rfl | rfl | rfl | rfl | rfl | rfl <;> rfl

/-- Punctuation is no part of a word. -/
theorem not_isWordChar_of_isPunctuation {c : Char} (hc : isPunctuation c = true) :
    Text.isWordChar c = false := by
  simp only [isPunctuation, List.mem_cons, List.not_mem_nil, or_false, decide_eq_true_eq] at hc
  rcases hc with rfl | rfl | rfl | rfl | rfl | rfl | rfl | rfl <;> rfl

/-! ## One step of the scan -/

/-- White space in front only moves the column. -/
theorem scan_blank {c : Char} (hc : Text.isBlank c = true) (column : Nat) (cs : List Char) :
    Token.scan column (c :: cs) = Token.scan (column + 1) cs := by
  rw [Token.scan, if_pos hc]

/-- A character of a word in front goes before the tokens after it. -/
theorem scan_wordChar {c : Char} (hc : Text.isWordChar c = true) (column : Nat)
    (cs : List Char) :
    Token.scan column (c :: cs) = Token.glue column c (Token.scan (column + 1) cs) := by
  have hblank : ¬ Text.isBlank c = true := by
    intro hblank
    rw [not_isWordChar_of_isBlank hblank] at hc
    cases hc
  rw [Token.scan, if_neg hblank, if_pos hc]

/-- Any other character in front is a mark. -/
theorem scan_mark {c : Char} (hblank : Text.isBlank c = false)
    (hword : Text.isWordChar c = false) (column : Nat) (cs : List Char) :
    Token.scan column (c :: cs) = ⟨column, .mark c⟩ :: Token.scan (column + 1) cs := by
  rw [Token.scan, if_neg (by simp [hblank]), if_neg (by simp [hword])]

/-! ## Words -/

/-- What a character of a word goes before keeps its columns. -/
theorem mem_glue {column : Nat} {c : Char} {t : Token} {ts : List Token}
    (h : t ∈ Token.glue column c ts) : t.column = column ∨ t ∈ ts := by
  unfold Token.glue at h
  split at h
  · split at h
    · rcases List.mem_cons.1 h with rfl | hts
      · exact .inl rfl
      · exact .inr (List.mem_cons_of_mem _ hts)
    · rcases List.mem_cons.1 h with rfl | hts
      · exact .inl rfl
      · exact .inr hts
  · rcases List.mem_cons.1 h with rfl | hts
    · exact .inl rfl
    · exact .inr hts

/-- No token has a column before the text. -/
theorem column_le_of_mem_scan {t : Token} {cs : List Char} :
    ∀ {column : Nat}, t ∈ Token.scan column cs → column ≤ t.column := by
  induction cs with
  | nil =>
    intro column h
    cases h
  | cons c cs ih =>
    intro column h
    rw [Token.scan] at h
    split at h
    · -- white space
      have hlater := ih h
      omega
    · split at h
      · -- A word starts here, or a word of the rest gets this character.
        rcases mem_glue h with hhere | hlater
        · omega
        · have hcolumn := ih hlater
          omega
      · -- a mark
        rcases List.mem_cons.1 h with rfl | hlater
        · exact Nat.le_refl _
        · have hcolumn := ih hlater
          omega

/-- The tokens of a text start with a word at the column of the text only if the text starts
with a character of a word. -/
theorem wordChar_of_scan {column : Nat} {w cs : List Char} {ts : List Token}
    (h : Token.scan column cs = ⟨column, .word w⟩ :: ts) :
    ∃ c, cs.head? = some c ∧ Text.isWordChar c = true := by
  cases cs with
  | nil => cases h
  | cons c cs =>
    by_cases hword : Text.isWordChar c = true
    · exact ⟨c, rfl, hword⟩
    · exfalso
      rw [Bool.not_eq_true] at hword
      by_cases hblank : Text.isBlank c = true
      · -- All tokens lie after white space.
        rw [scan_blank hblank] at h
        have hfirst : (⟨column, .word w⟩ : Token) ∈ Token.scan (column + 1) cs := by
          rw [h]
          exact List.mem_cons_self
        have hlater : column + 1 ≤ column := column_le_of_mem_scan hfirst
        omega
      · rw [Bool.not_eq_true] at hblank
        rw [scan_mark hblank hword] at h
        cases h

/-- A character of a word starts a word of its own if no word goes on at the next column. -/
theorem glue_of_no_word {column : Nat} {c : Char} {ts : List Token}
    (h : ∀ w us, ts ≠ ⟨column + 1, .word w⟩ :: us) :
    Token.glue column c ts = ⟨column, .word [c]⟩ :: ts := by
  unfold Token.glue
  split
  · next next chars us =>
    split
    · next hnext =>
      subst hnext
      exact absurd rfl (h chars us)
    · rfl
  · rfl

/-- A run of characters of a word that is as long as it can be is one token. -/
theorem scan_word {w cs : List Char} (hne : w ≠ []) (hw : ∀ c ∈ w, Text.isWordChar c = true)
    (hmax : ∀ c, cs.head? = some c → Text.isWordChar c = false) :
    ∀ column, Token.scan column (w ++ cs) =
      ⟨column, .word w⟩ :: Token.scan (column + w.length) cs := by
  induction w with
  | nil => exact absurd rfl hne
  | cons c w ih =>
    intro column
    have hc : Text.isWordChar c = true := hw c List.mem_cons_self
    have htail : ∀ d ∈ w, Text.isWordChar d = true :=
      fun d hd => hw d (List.mem_cons_of_mem _ hd)
    rw [List.cons_append, scan_wordChar hc]
    by_cases hend : w = []
    · -- The word ends here: what follows does not start with one.
      subst hend
      apply glue_of_no_word
      intro w us hscan
      obtain ⟨d, hd, hword⟩ := wordChar_of_scan hscan
      rw [hmax d hd] at hword
      cases hword
    · rw [ih hend htail (column + 1)]
      have hcolumn : column + 1 + w.length = column + (c :: w).length := by
        rw [List.length_cons]
        omega
      rw [hcolumn]
      simp [Token.glue]

/-! ## The cut -/

/-- A cut of a text is what the scan finds. -/
theorem Cut.lexemes_scan {cs : List Char} {ls : List Lexeme} (h : Cut cs ls) :
    ∀ column, lexemes (Token.scan column cs) = ls := by
  induction h with
  | nil =>
    intro column
    rfl
  | blank hc h ih =>
    intro column
    rw [scan_blank hc, ih]
  | mark hc h ih =>
    intro column
    rw [scan_mark (not_isBlank_of_isPunctuation hc) (not_isWordChar_of_isPunctuation hc),
      lexemes_cons, ih]
  | word hne hw hmax h ih =>
    intro column
    rw [scan_word hne hw hmax, lexemes_cons, ih]

/-- The marks of a cut are punctuation. -/
theorem Cut.punctuated {cs : List Char} {ls : List Lexeme} (h : Cut cs ls) : Punctuated ls := by
  induction h with
  | nil => exact punctuated_nil
  | blank hc h ih => exact ih
  | mark hc h ih => exact ih.mark hc
  | word hne hw hmax h ih => exact ih.word

/-- A text that starts with a character of a word starts with a longest run of them. -/
theorem exists_longest_word {c : Char} (hc : Text.isWordChar c = true) (cs : List Char) :
    ∃ w rest, w ++ rest = c :: cs ∧ w ≠ [] ∧ (∀ d ∈ w, Text.isWordChar d = true) ∧
      ∀ d, rest.head? = some d → Text.isWordChar d = false := by
  refine ⟨(c :: cs).takeWhile Text.isWordChar, (c :: cs).dropWhile Text.isWordChar,
    List.takeWhile_append_dropWhile, ?_, ?_, ?_⟩
  · simp [hc]
  · intro d hd
    exact List.all_eq_true.1 List.all_takeWhile d hd
  · intro d hd
    have hhead := List.head?_dropWhile_not Text.isWordChar (c :: cs)
    rw [hd] at hhead
    simpa using hhead

/-- What the scan finds is a cut of the text if the marks are punctuation. -/
theorem cut_scan {column : Nat} {cs : List Char}
    (h : Punctuated (lexemes (Token.scan column cs))) :
    Cut cs (lexemes (Token.scan column cs)) := by
  -- A word is taken off whole, so the induction is on the length of the text.
  induction hlength : cs.length using Nat.strongRecOn generalizing column cs with
  | ind n ih =>
    cases cs with
    | nil => exact .nil
    | cons c cs =>
      by_cases hblank : Text.isBlank c = true
      · rw [scan_blank hblank] at h ⊢
        exact .blank hblank (ih cs.length (by simp [← hlength]) h rfl)
      · by_cases hword : Text.isWordChar c = true
        · obtain ⟨w, rest, hsplit, hne, hw, hmax⟩ := exists_longest_word hword cs
          -- A word has a character at least, so what follows it is shorter.
          have hshorter : rest.length < n := by
            have hsum := congrArg List.length hsplit
            have hpositive : 0 < w.length := List.length_pos_iff.2 hne
            rw [List.length_append] at hsum
            omega
          rw [← hsplit, scan_word hne hw hmax, lexemes_cons] at h ⊢
          have hrest : Punctuated (lexemes (Token.scan (column + w.length) rest)) :=
            fun d hd => h d (List.mem_cons_of_mem _ hd)
          exact .word hne hw hmax (ih rest.length hshorter hrest rfl)
        · rw [Bool.not_eq_true] at hblank hword
          rw [scan_mark hblank hword, lexemes_cons] at h ⊢
          have hrest : Punctuated (lexemes (Token.scan (column + 1) cs)) :=
            fun d hd => h d (List.mem_cons_of_mem _ hd)
          exact .mark (h c List.mem_cons_self) (ih cs.length (by simp [← hlength]) hrest rfl)

/-- A text has one cut at most: the lexemes of its tokens, if their marks are punctuation. -/
theorem cut_iff {cs : List Char} {ls : List Lexeme} (column : Nat) :
    Cut cs ls ↔ lexemes (Token.scan column cs) = ls ∧ Punctuated ls := by
  constructor
  · intro h
    exact ⟨h.lexemes_scan column, h.punctuated⟩
  · rintro ⟨rfl, h⟩
    exact cut_scan h

/-- A text has no tokens exactly if it is blank. -/
theorem scan_eq_nil_iff {cs : List Char} :
    ∀ (column : Nat), Token.scan column cs = [] ↔ ∀ c ∈ cs, Text.isBlank c = true := by
  induction cs with
  | nil => simp [Token.scan]
  | cons c cs ih =>
    intro column
    by_cases hblank : Text.isBlank c = true
    · rw [scan_blank hblank, ih]
      simp [hblank]
    · constructor
      · -- Any other character gives a token, or goes on with one.
        intro h
        exfalso
        rw [Token.scan, if_neg hblank] at h
        split at h
        · unfold Token.glue at h
          split at h
          · split at h <;> cases h
          · cases h
        · cases h
      · intro h
        exact absurd (h c List.mem_cons_self) hblank

end SwiftDecl.TypeName
