import SwiftDecl.Template.Token

/-!
# Reading templates token by token

Each kind of token is read off the front of a template, whatever comes after it. A text in front of
a template stands for itself if its percent signs are doubled (`escaped`), and a text behind it does
if no placeholder can go on into it (`IsEnding`). Neither adds a directive.
-/

namespace SwiftDecl.Template

section Glue

variable {letter fault : Type} {c : Char} {ts : List (TokenOf letter fault)}

/-- Before tokens that start with no text, a character is a text of its own. -/
theorem glue_of_no_text (h : ∀ front rest, ts ≠ .text front :: rest) :
    TokenOf.glue c ts = .text [c] :: ts := by
  cases ts with
  | nil => rfl
  | cons t ts =>
    cases t with
    | text front => exact absurd rfl (h front ts)
    | _ => rfl

theorem mem_glue_iff {d : Directive} : .directive d ∈ TokenOf.glue c ts ↔ .directive d ∈ ts := by
  cases ts with
  | nil => simp [TokenOf.glue]
  | cons t ts => cases t <;> simp [TokenOf.glue]

end Glue

/-- Text is read up to the next placeholder. -/
theorem scan_text {chars cs : List Char} (hne : chars ≠ []) (hpercent : '%' ∉ chars)
    (hrest : ∀ front ts, Token.scan none cs ≠ .text front :: ts) :
    Token.scan none (chars ++ cs) = .text chars :: Token.scan none cs := by
  induction chars with
  | nil => exact absurd rfl hne
  | cons c chars ih =>
    have hc : c ≠ '%' := fun h => hpercent (h ▸ List.mem_cons_self)
    rw [List.cons_append, Token.scan, if_neg hc]
    cases chars with
    | nil =>
      -- No text follows, so the text ends with this character.
      exact glue_of_no_text hrest
    | cons c' chars =>
      rw [ih (List.cons_ne_nil _ _) fun h => hpercent (List.mem_cons_of_mem c h)]
      rfl

/-- A directive is read as it is spelled. -/
theorem scan_directive (d : Directive) (cs : List Char) :
    Token.scan none ('%' :: d.letter :: cs) = .directive d :: Token.scan none cs := by
  cases d <;> rfl

/-- The percent sign twice is the percent sign. -/
theorem scan_percent (cs : List Char) :
    Token.scan none ('%' :: '%' :: cs) = .directive .percent :: Token.scan none cs :=
  scan_directive .percent cs

/-- Any other character stands for itself. -/
theorem scan_char {c : Char} (hc : c ≠ '%') (cs : List Char) :
    Token.scan none (c :: cs) = TokenOf.glue c (Token.scan none cs) := by
  rw [Token.scan, if_neg hc]

/-- How a template is read character by character: a character is text, or is kept for the token
that it belongs to, or is the last of a token, or makes the placeholder malformed. Which of these it
is does not depend on what comes after it. -/
@[elab_as_elim]
theorem scan_induction {motive : Option (List Char) → List Char → Prop}
    (nil : motive none [])
    (dangling : ∀ digits, motive (some digits) [])
    (text : ∀ c cs, (∀ rest, Token.scan none (c :: rest) = TokenOf.glue c (Token.scan none rest)) →
      motive none cs → motive none (c :: cs))
    (kept : ∀ st next c cs, (∀ rest, Token.scan st (c :: rest) = Token.scan (some next) rest) →
      motive (some next) cs → motive st (c :: cs))
    (token : ∀ st t c cs, (∀ rest, Token.scan st (c :: rest) = t :: Token.scan none rest) →
      motive none cs → motive st (c :: cs))
    (malformed : ∀ st m c cs, (∀ rest, Token.scan st (c :: rest) = [.malformed m]) →
      motive st (c :: cs))
    (st : Option (List Char)) (cs : List Char) : motive st cs := by
  induction cs generalizing st with
  | nil =>
    cases st with
    | none => exact nil
    | some digits => exact dangling digits
  | cons c cs ih =>
    cases st with
    | none =>
      by_cases hc : c = '%'
      · -- A percent sign opens a directive.
        exact kept none [] c cs (fun rest => by rw [Token.scan, if_pos hc]) (ih _)
      · exact text c cs (scan_char hc) (ih _)
    | some digits =>
      by_cases hdigit : Text.isDigit c = true
      · -- a digit of the position
        exact kept _ (c :: digits) c cs (fun rest => by rw [Token.scan, if_pos hdigit]) (ih _)
      · cases hslot : Slot.ofLetter? c with
        | some s =>
          -- the letter of a slot
          exact token _ (.slot s digits.reverse) c cs
            (fun rest => by simp [Token.scan, hdigit, hslot]) (ih _)
        | none =>
          cases hdirective : Directive.ofLetter? c with
          | some d =>
            -- the letter of a directive, which takes no position
            by_cases hdigits : digits = []
            · exact token _ (.directive d) c cs
                (fun rest => by simp [Token.scan, hdigit, hslot, hdirective, hdigits]) (ih _)
            · exact malformed _ (.indexedDirective d) c cs
                fun rest => by simp [Token.scan, hdigit, hslot, hdirective, hdigits]
          | none =>
            -- no letter that is known
            exact malformed _ (.unknownLetter c) c cs
              fun rest => by simp [Token.scan, hdigit, hslot, hdirective]

/-! ## Texts around a template -/

/-- A text whose percent signs are doubled, character by character. -/
def escaped (cs : List Char) : List Char :=
  cs.flatMap fun c => if c = '%' then ['%', '%'] else [c]

theorem escaped_percent (cs : List Char) : escaped ('%' :: cs) = '%' :: '%' :: escaped cs := rfl

theorem escaped_char {c : Char} (hc : c ≠ '%') (cs : List Char) :
    escaped (c :: cs) = c :: escaped cs := by
  simp [escaped, hc]

/-- A text whose percent signs are doubled gives no indentation. -/
theorem mem_scan_escaped {d : Directive} {name rest : List Char}
    (h : .directive d ∈ Token.scan none (escaped name ++ rest)) :
    d = .percent ∨ .directive d ∈ Token.scan none rest := by
  induction name with
  | nil => exact .inr h
  | cons c cs ih =>
    by_cases hc : c = '%'
    · subst hc
      rw [escaped_percent, List.cons_append, List.cons_append, scan_percent, List.mem_cons] at h
      rcases h with hsame | hin
      · cases hsame
        exact .inl rfl
      · exact ih hin
    · rw [escaped_char hc, List.cons_append, scan_char hc, mem_glue_iff] at h
      exact ih h

/-- No placeholder starts in the text, and none that is open before it goes on into it. -/
structure IsEnding (ending : List Char) : Prop where
  no_percent : '%' ∉ ending
  stops : ∃ c cs, ending = c :: cs ∧ Text.isDigit c = false ∧ Slot.ofLetter? c = none ∧
    Directive.ofLetter? c = none

variable {ending : List Char}

theorem IsEnding.scan_none (h : IsEnding ending) : Token.scan none ending = [.text ending] := by
  obtain ⟨c, cs, rfl, -⟩ := h.stops
  have hrest : ∀ front ts, Token.scan none [] ≠ .text front :: ts := by simp [Token.scan]
  have hscan := scan_text (List.cons_ne_nil c cs) h.no_percent hrest
  rwa [List.append_nil] at hscan

/-- A placeholder that is open before the text is malformed. -/
theorem IsEnding.scan_some (h : IsEnding ending) (digits : List Char) :
    ∃ m, Token.scan (some digits) ending = [.malformed m] := by
  obtain ⟨c, cs, rfl, hdigit, hslot, hdirective⟩ := h.stops
  exact ⟨.unknownLetter c, by simp [Token.scan, hdigit, hslot, hdirective]⟩

/-- The text behind a template gives no indentation. -/
theorem mem_scan_ending {d : Directive} {st : Option (List Char)} {cs : List Char}
    (hending : IsEnding ending) (h : .directive d ∈ Token.scan st (cs ++ ending)) :
    .directive d ∈ Token.scan st cs := by
  induction st, cs using scan_induction with
  | nil => simp [hending.scan_none] at h
  | dangling digits =>
    obtain ⟨m, hm⟩ := hending.scan_some digits
    simp [hm] at h
  | text c cs hscan ih =>
    -- Gluing a character to the first text adds and takes away no directive.
    rw [List.cons_append, hscan, mem_glue_iff] at h
    rw [hscan, mem_glue_iff]
    exact ih h
  | kept st next c cs hscan ih =>
    rw [List.cons_append, hscan] at h
    rw [hscan]
    exact ih h
  | token st t c cs hscan ih =>
    rw [List.cons_append, hscan, List.mem_cons] at h
    rw [hscan, List.mem_cons]
    exact h.imp_right ih
  | malformed st m c cs hscan => simp [hscan] at h

end SwiftDecl.Template
