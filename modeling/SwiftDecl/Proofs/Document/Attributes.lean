import SwiftDecl.Document.Build

/-!
# Attributes of documents

The text of an attribute in a document is its name, perhaps with an argument in parentheses. White
space around the name does not count, nor does an at sign before it, and the argument is kept
whatever its characters are. White space behind the closing parenthesis does count: the parenthesis
is then taken for a part of the argument, and a second one is written after it
(`Attribute.parse_spelled_iff`).
-/

namespace SwiftDecl

namespace Text

/-- All of the characters are white space. -/
def AllBlank (cs : List Char) : Prop :=
  ∀ c ∈ cs, isBlank c = true

/-- None of the characters is white space. -/
def NoneBlank (cs : List Char) : Prop :=
  ∀ c ∈ cs, isBlank c = false

instance (cs : List Char) : Decidable (AllBlank cs) :=
  decidable_of_iff (cs.all isBlank = true) List.all_eq_true

instance (cs : List Char) : Decidable (NoneBlank cs) :=
  decidable_of_iff (cs.all (fun c => !isBlank c) = true) (by simp [NoneBlank])

theorem AllBlank.reverse {cs : List Char} (h : AllBlank cs) : AllBlank cs.reverse :=
  fun c hc => h c (List.mem_reverse.1 hc)

theorem NoneBlank.reverse {cs : List Char} (h : NoneBlank cs) : NoneBlank cs.reverse :=
  fun c hc => h c (List.mem_reverse.1 hc)

/-- A character that is no white space is not among white space. -/
theorem AllBlank.not_mem {cs : List Char} (h : AllBlank cs) {c : Char} (hc : isBlank c = false) :
    c ∉ cs := by
  intro hin
  rw [h c hin] at hc
  cases hc

/-- White space is skipped up to the first character that is none. -/
theorem skipBlank_append {blanks word : List Char} (hblanks : AllBlank blanks)
    (hword : NoneBlank word) (hne : word ≠ []) (rest : List Char) :
    skipBlank (blanks ++ word ++ rest) = word ++ rest := by
  obtain ⟨c, cs, rfl⟩ := List.exists_cons_of_ne_nil hne
  have hfirst : isBlank c = false := hword c List.mem_cons_self
  rw [skipBlank, List.append_assoc, List.dropWhile_append_of_pos hblanks, List.cons_append,
    List.dropWhile_cons_of_neg (by simp [hfirst])]

/-- A word is left of a text with white space around it. -/
theorem trimBlank_word {front word behind : List Char} (hfront : AllBlank front)
    (hword : NoneBlank word) (hne : word ≠ []) (hbehind : AllBlank behind) :
    trimBlank (front ++ word ++ behind) = word := by
  have hback := skipBlank_append hbehind.reverse hword.reverse (by simpa using hne) []
  rw [List.append_nil, List.append_nil] at hback
  rw [trimBlank, skipBlank_append hfront hword hne, List.reverse_append, hback,
    List.reverse_reverse]

end Text

open Text

namespace Attribute

/-- The name of an attribute: not empty, without white space, at sign and opening parenthesis. -/
structure IsName (name : String) : Prop where
  nonempty : name ≠ ""
  no_blank : NoneBlank name.toList
  no_at_sign : '@' ∉ name.toList
  no_parenthesis : '(' ∉ name.toList

/-- What can stand before the name: white space, and an at sign on one side of it or none. -/
inductive IsLead : List Char → Prop where
  | blank {cs : List Char} : AllBlank cs → IsLead cs
  | atSign_behind (cs : List Char) : AllBlank cs → IsLead (cs ++ ['@'])
  | atSign_before (cs : List Char) : AllBlank cs → IsLead ('@' :: cs)

/-- An at sign, or nothing. -/
def sign (present : Bool) : List Char :=
  if present then ['@'] else []

/-- A text keeps its characters if the first is no at sign. -/
theorem dropAtSign_of_ne {c : Char} (hc : c ≠ '@') (cs : List Char) :
    (dropAtSign (String.ofList (c :: cs))).toList = c :: cs := by
  unfold dropAtSign
  rw [String.toList_ofList]
  split
  · next h => exact absurd (List.cons.inj h).1 hc
  · exact String.toList_ofList

theorem dropAtSign_atSign (cs : List Char) :
    (dropAtSign (String.ofList ('@' :: cs))).toList = cs := by
  unfold dropAtSign
  rw [String.toList_ofList]
  exact String.toList_ofList

/-- Without an at sign at its very front, a text starts with white space, perhaps with the sign
after it, and the name. -/
theorem IsLead.exists_dropAtSign {lead : List Char} (h : IsLead lead) {c : Char} (hc : c ≠ '@')
    (rest : List Char) :
    ∃ blanks present, AllBlank blanks ∧
      (dropAtSign (String.ofList (lead ++ c :: rest))).toList =
        blanks ++ sign present ++ c :: rest := by
  have hplain : ∀ d, isBlank d = true → d ≠ '@' := by
    rintro d hd rfl
    exact absurd hd (by decide)
  cases h with
  | blank hblank =>
    -- no sign: white space alone
    refine ⟨lead, false, hblank, ?_⟩
    cases lead with
    | nil => exact dropAtSign_of_ne hc rest
    | cons d ds =>
      rw [sign, if_neg Bool.false_ne_true, List.append_nil]
      exact dropAtSign_of_ne (hplain d (hblank d List.mem_cons_self)) _
  | atSign_behind cs hblank =>
    -- The sign is dropped only at the very front.
    cases cs with
    | nil => exact ⟨[], false, hblank, dropAtSign_atSign (c :: rest)⟩
    | cons d ds =>
      refine ⟨d :: ds, true, hblank, ?_⟩
      exact dropAtSign_of_ne (hplain d (hblank d List.mem_cons_self)) _
  | atSign_before cs hblank =>
    -- the sign first, and white space after it
    refine ⟨cs, false, hblank, ?_⟩
    rw [sign, if_neg Bool.false_ne_true, List.append_nil]
    exact dropAtSign_atSign (cs ++ c :: rest)

variable {lead name between argument behind : String}

/-- A name starts with a character that is no at sign. -/
theorem IsName.exists_first (h : IsName name) : ∃ c cs, name.toList = c :: cs ∧ c ≠ '@' := by
  obtain ⟨c, cs, hchars⟩ :=
    List.exists_cons_of_ne_nil fun hnil => h.nonempty (String.toList_eq_nil_iff.1 hnil)
  refine ⟨c, cs, hchars, ?_⟩
  rintro rfl
  exact h.no_at_sign (by simp [hchars])

/-- A name that is given with its at sign is kept without. -/
theorem IsName.of_sign (h : IsName name) (present : Bool) (arguments : List String) :
    Attribute.of (String.ofList (sign present ++ name.toList)) arguments = { name, arguments } := by
  have hdropped : (dropAtSign (String.ofList (sign present ++ name.toList))).toList =
      name.toList := by
    cases present with
    | true => exact dropAtSign_atSign name.toList
    | false =>
      obtain ⟨c, cs, hname, hc⟩ := h.exists_first
      rw [hname]
      exact dropAtSign_of_ne hc cs
  rw [Attribute.of, String.toList_inj.1 hdropped]

/-- There is no white space in a name with its sign. -/
theorem IsName.noneBlank_signed (h : IsName name) (present : Bool) :
    NoneBlank (sign present ++ name.toList) := by
  intro d hd
  rcases List.mem_append.1 hd with hsign | hin
  · cases present with
    | true =>
      rw [List.mem_singleton.1 hsign]
      decide
    | false => cases hsign
  · exact h.no_blank d hin

/-- There is no parenthesis in a name with its sign and white space around it. -/
theorem IsName.parenthesis_not_mem (h : IsName name) (present : Bool) {blanks behind : List Char}
    (hblanks : AllBlank blanks) (hbehind : AllBlank behind) :
    '(' ∉ blanks ++ (sign present ++ name.toList) ++ behind := by
  have hplain : isBlank '(' = false := by decide
  have hsign : '(' ∉ sign present := by cases present <;> decide
  simp only [List.mem_append, not_or]
  exact ⟨⟨hblanks.not_mem hplain, hsign, h.no_parenthesis⟩, hbehind.not_mem hplain⟩

/-- A text is cut at its first parenthesis, if it has one. -/
theorem cut_at_parenthesis {front rest : List Char} (hfront : '(' ∉ front)
    (hrest : rest = [] ∨ ∃ cs, rest = '(' :: cs) :
    (front ++ rest).takeWhile (· != '(') = front ∧
      (front ++ rest).dropWhile (· != '(') = rest := by
  have hall : ∀ d ∈ front, (d != '(') = true := by
    intro d hd
    rw [bne_iff_ne]
    rintro rfl
    exact hfront hd
  rw [List.takeWhile_append_of_pos hall, List.dropWhile_append_of_pos hall]
  rcases hrest with rfl | ⟨cs, rfl⟩ <;> simp

/-- What the text of an attribute is cut into: the name, and what comes after the first
parenthesis. -/
theorem parse_eq (hlead : IsLead lead.toList) (hname : IsName name)
    (hbetween : AllBlank between.toList) {rest : List Char}
    (hrest : rest = [] ∨ ∃ cs, rest = '(' :: cs) :
    Attribute.parse (String.ofList (lead.toList ++ name.toList ++ between.toList ++ rest)) =
      { name
        arguments :=
          if rest.drop 1 = [] then [] else [String.ofList (dropClosing (rest.drop 1))] } := by
  obtain ⟨c, cs, hchars, hc⟩ := hname.exists_first
  obtain ⟨blanks, present, hblanks, hdropped⟩ :=
    hlead.exists_dropAtSign hc (cs ++ between.toList ++ rest)
  -- Before the first parenthesis stands the name with its sign, and white space around it.
  have hfront : (dropAtSign (String.ofList
      (lead.toList ++ name.toList ++ between.toList ++ rest))).toList =
      blanks ++ (sign present ++ name.toList) ++ between.toList ++ rest := by
    rw [hchars]
    simpa using hdropped
  obtain ⟨htaken, hleft⟩ :=
    cut_at_parenthesis (hname.parenthesis_not_mem present hblanks hbetween) hrest
  have htrimmed :=
    trimBlank_word hblanks (hname.noneBlank_signed present) (by simp [hchars]) hbetween
  unfold Attribute.parse
  simp only [hfront, htaken, hleft, htrimmed]
  -- With nothing inside of the parentheses there is no argument.
  cases hinside : rest.drop 1 with
  | nil => exact hname.of_sign present []
  | cons d ds => exact hname.of_sign present _

/-- A closing parenthesis is dropped if it is the last character. -/
theorem dropClosing_concat (cs : List Char) : dropClosing (cs ++ [')']) = cs := by
  simp [dropClosing]

/-- White space behind a closing parenthesis hides it. -/
theorem dropClosing_blank (cs : List Char) {blanks : List Char} (hblanks : AllBlank blanks)
    (hne : blanks ≠ []) : dropClosing (cs ++ blanks) = cs ++ blanks := by
  obtain ⟨front, last, rfl⟩ := List.eq_nil_or_concat blanks |>.resolve_left hne
  have hlast : last ≠ ')' := by
    rintro rfl
    exact hblanks.not_mem (c := ')') (by decide) (by simp)
  unfold dropClosing
  rw [List.concat_eq_append, ← List.append_assoc, List.reverse_append, List.reverse_singleton,
    List.singleton_append]
  split
  · next hsame => exact absurd (List.cons.inj hsame).1 hlast
  · rfl

/-- A text that stands for an attribute without arguments. -/
theorem parse_name (hlead : IsLead lead.toList) (hname : IsName name)
    (hbehind : AllBlank behind.toList) :
    Attribute.parse (lead ++ name ++ behind) = { name } := by
  have htext : lead ++ name ++ behind =
      String.ofList (lead.toList ++ name.toList ++ behind.toList ++ []) := by
    simp [← String.toList_inj]
  rw [htext, parse_eq hlead hname hbehind (.inl rfl)]
  rfl

/-- A text that stands for an attribute with an argument. White space behind it is taken for a part
of the argument, together with the parenthesis. -/
theorem parse_argument (hlead : IsLead lead.toList) (hname : IsName name)
    (hbetween : AllBlank between.toList) (hbehind : AllBlank behind.toList) :
    Attribute.parse (lead ++ name ++ between ++ "(" ++ argument ++ ")" ++ behind) =
      { name, arguments := [argument ++ if behind = "" then "" else ")" ++ behind] } := by
  have htext : lead ++ name ++ between ++ "(" ++ argument ++ ")" ++ behind =
      String.ofList (lead.toList ++ name.toList ++ between.toList ++
        '(' :: (argument.toList ++ ')' :: behind.toList)) := by
    simp [← String.toList_inj]
  have hclosed : String.ofList (dropClosing (argument.toList ++ ')' :: behind.toList)) =
      argument ++ if behind = "" then "" else ")" ++ behind := by
    by_cases hempty : behind = ""
    · rw [if_pos hempty, hempty, String.append_empty]
      exact (congrArg String.ofList (dropClosing_concat _)).trans String.ofList_toList
    · have hblank := dropClosing_blank (argument.toList ++ [')']) hbehind
        fun hnil => hempty (String.toList_eq_nil_iff.1 hnil)
      rw [List.append_assoc, List.singleton_append] at hblank
      rw [hblank, if_neg hempty]
      simp
  rw [htext, parse_eq hlead hname hbetween (.inr ⟨_, rfl⟩), List.drop_one, List.tail_cons, hclosed,
    if_neg (by simp)]

/-- The text of an attribute with one argument. -/
theorem text_singleton (name argument : String) :
    Attribute.text { name, arguments := [argument] } = "@" ++ name ++ "(" ++ argument ++ ")" := by
  simp [Attribute.text]

/-- The text of an attribute keeps its meaning: white space around the name does not count, nor does
an at sign, and an argument is kept as it is. The one exception is white space behind the closing
parenthesis. It does count, and only an argument without any behind it is kept. -/
theorem parse_spelled_iff (hlead : IsLead lead.toList) (hname : IsName name)
    (hbetween : AllBlank between.toList) (hbehind : AllBlank behind.toList) (argument : String) :
    (Attribute.parse (lead ++ name ++ behind)).text = "@" ++ name ∧
      (Attribute.parse (lead ++ name ++ between ++ "(" ++ argument ++ ")" ++ behind)).text =
        "@" ++ name ++ "(" ++ argument ++ ")" ++ (if behind = "" then "" else behind ++ ")") ∧
      ((Attribute.parse (lead ++ name ++ between ++ "(" ++ argument ++ ")" ++ behind)).text =
        "@" ++ name ++ "(" ++ argument ++ ")" ↔ behind = "") := by
  have hnamed : (Attribute.parse (lead ++ name ++ behind)).text = "@" ++ name := by
    rw [parse_name hlead hname hbehind]
    rfl
  have hargument : (Attribute.parse
      (lead ++ name ++ between ++ "(" ++ argument ++ ")" ++ behind)).text =
      "@" ++ name ++ "(" ++ argument ++ ")" ++ (if behind = "" then "" else behind ++ ")") := by
    rw [parse_argument hlead hname hbetween hbehind, text_singleton]
    split <;> simp [← String.toList_inj]
  refine ⟨hnamed, hargument, ?_⟩
  rw [hargument]
  constructor
  · -- The white space behind is kept inside, so the text is longer.
    intro hsame
    refine Classical.byContradiction fun hne => ?_
    have hlength := congrArg String.length hsame
    rw [if_neg hne] at hlength
    simp at hlength
  · intro hempty
    rw [if_pos hempty, String.append_empty]

theorem available_isName : IsName "available" where
  nonempty := by decide
  no_blank := by decide
  no_at_sign := by decide
  no_parenthesis := by decide

/-- White space and an at sign before the name, white space before the parenthesis, and an argument
that ends with parentheses and white space. -/
theorem parse_spelled_nested :
    (IsLead "\t@".toList ∧ IsName "available" ∧ AllBlank " \n".toList ∧ AllBlank "".toList) ∧
      (Attribute.parse "\t@available").text = "@available" ∧
      (Attribute.parse "\t@available \n(f(x), (y)) )").text = "@available(f(x), (y)) )" := by
  have hlead : IsLead "\t@".toList := .atSign_behind ['\t'] (by decide)
  have hbetween : AllBlank " \n".toList := by decide
  have hbehind : AllBlank "".toList := by decide
  obtain ⟨hplain, -, hkept⟩ :=
    parse_spelled_iff hlead available_isName hbetween hbehind "f(x), (y)) "
  exact ⟨⟨hlead, available_isName, hbetween, hbehind⟩, hplain, hkept.2 rfl⟩

/-- White space behind the closing parenthesis changes the argument. -/
theorem parse_keeps_white_space :
    ¬ ∀ name argument behind : String, IsName name → AllBlank behind.toList →
      (Attribute.parse (name ++ "(" ++ argument ++ ")" ++ behind)).text =
        "@" ++ name ++ "(" ++ argument ++ ")" := by
  intro h
  have hsame := h "available" "iOS 13" " " available_isName (by decide)
  exact absurd hsame (by decide)

end Attribute

end SwiftDecl
