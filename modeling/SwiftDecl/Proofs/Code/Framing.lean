import SwiftDecl.Proofs.Code.Filling
import SwiftDecl.Proofs.Template.Scanning

/-!
# Templates between texts

Some operations fill a template between two texts of their own. The text in front stands for itself
if its percent signs are doubled, and the text behind does if no placeholder can go on into it. What
is filled is then what the template by itself is filled to, between the two texts
(`Template.instantiate_framed`).
-/

namespace SwiftDecl

open Layout

namespace Template

/-! ## Filling -/

section Fill

variable {format : String} {arguments : List Argument} {taken taken' : Taken} {c : Code}
  {ending : List Char}

/-- A text whose percent signs are doubled fills to itself, before what the rest fills to. -/
theorem fillTokens_escaped_inv {name rest : List Char}
    (h : fillTokens format arguments taken (Token.scan none (escaped name ++ rest)) =
      .ok (c, taken')) :
    ∃ c', fillTokens format arguments taken (Token.scan none rest) = .ok (c', taken') ∧
      chars c.layout = name ++ chars c'.layout := by
  induction name generalizing c with
  | nil => exact ⟨c, h, rfl⟩
  | cons char cs ih =>
    by_cases hc : char = '%'
    · subst hc
      rw [escaped_percent, List.cons_append, List.cons_append, scan_percent] at h
      obtain ⟨middle, hmiddle, hlayout⟩ := fillTokens_directive_inv h
      obtain ⟨c', hrest, hchars⟩ := ih hmiddle
      refine ⟨c', hrest, ?_⟩
      rw [hlayout, chars_append, hchars]
      rfl
    · rw [escaped_char hc, List.cons_append, scan_char hc] at h
      obtain ⟨middle, hmiddle, hlayout⟩ := fillTokens_glue_inv h
      obtain ⟨c', hrest, hchars⟩ := ih hmiddle
      exact ⟨c', hrest, by rw [hlayout, hchars, List.cons_append]⟩

/-- A character can be put before tokens that are filled. -/
theorem exists_fillTokens_glue (char : Char) {ts : List Token}
    (h : fillTokens format arguments taken ts = .ok (c, taken')) :
    ∃ c', fillTokens format arguments taken (TokenOf.glue char ts) = .ok (c', taken') ∧
      chars c'.layout = char :: chars c.layout := by
  cases ts with
  | nil =>
    refine ⟨_, fillTokens_text_iff.2 ⟨c, h, rfl⟩, ?_⟩
    rw [Code.layout_text, chars_text]
    simp
  | cons t ts =>
    cases t with
    | text front =>
      obtain ⟨rest, hrest, hc⟩ := fillTokens_text_inv h
      refine ⟨_, fillTokens_text_iff.2 ⟨rest, hrest, rfl⟩, ?_⟩
      rw [hc, Code.layout_text, chars_text, chars_text]
      simp
    | _ =>
      refine ⟨_, fillTokens_text_iff.2 ⟨c, h, rfl⟩, ?_⟩
      rw [Code.layout_text, chars_text]
      simp

/-- A token fills to the same characters whatever comes after it. -/
theorem fillTokens_cons_inv {t : Token} {ts : List Token}
    (h : fillTokens format arguments taken (t :: ts) = .ok (c, taken')) :
    ∃ shown next rest, fillTokens format arguments next ts = .ok (rest, taken') ∧
      chars c.layout = shown ++ chars rest.layout ∧
      ∀ ts' rest' last, fillTokens format arguments next ts' = .ok (rest', last) →
        ∃ c', fillTokens format arguments taken (t :: ts') = .ok (c', last) ∧
          chars c'.layout = shown ++ chars rest'.layout := by
  cases t with
  | text front =>
    obtain ⟨rest, hrest, rfl⟩ := fillTokens_text_iff.1 h
    refine ⟨front, taken, rest, hrest, ?_, fun ts' rest' last hrest' =>
      ⟨_, fillTokens_text_iff.2 ⟨rest', hrest', rfl⟩, ?_⟩⟩
    all_goals rw [Code.layout_text, chars_text, String.toList_ofList]
  | directive d =>
    obtain ⟨rest, hrest, rfl⟩ := fillTokens_directive_iff.1 h
    refine ⟨chars d.layout, taken, rest, hrest, ?_, fun ts' rest' last hrest' =>
      ⟨_, fillTokens_directive_iff.2 ⟨rest', hrest', rfl⟩, ?_⟩⟩
    all_goals rw [Code.layout_directive, chars_append]
  | slot s digits =>
    -- The slot takes the same argument, whatever tokens come after it.
    obtain ⟨position, next, converted, rest, hnext, hconverted, hrest, rfl⟩ :=
      fillTokens_slot_iff.1 h
    refine ⟨chars (converted.placed s), next, rest, hrest, ?_, fun ts' rest' last hrest' =>
      ⟨_, fillTokens_slot_iff.2
        ⟨position, next, converted, rest', hnext, hconverted, hrest', rfl⟩, ?_⟩⟩
    all_goals rw [Code.layout_slot, chars_append]
  | malformed m => exact absurd h fillTokens_malformed

/-- A text behind a template fills to itself, after what the template fills to. -/
theorem fillTokens_ending_inv {st : Option (List Char)} {cs : List Char}
    (hending : IsEnding ending)
    (h : fillTokens format arguments taken (Token.scan st (cs ++ ending)) = .ok (c, taken')) :
    ∃ c', fillTokens format arguments taken (Token.scan st cs) = .ok (c', taken') ∧
      chars c.layout = chars c'.layout ++ ending := by
  -- A token can take arguments, so the ones that are taken are kept general.
  induction st, cs using scan_induction generalizing taken c with
  | nil =>
    -- The ending is a text of its own.
    rw [List.nil_append, hending.scan_none] at h
    obtain ⟨rest, hrest, hlayout⟩ := fillTokens_text_inv h
    cases hrest
    refine ⟨{}, rfl, ?_⟩
    rw [hlayout, chars_text, Code.layout_empty, String.toList_ofList]
    exact List.append_nil ending
  | dangling digits =>
    -- A directive that the template leaves open is malformed with any ending.
    obtain ⟨m, hm⟩ := hending.scan_some digits
    rw [List.nil_append, hm] at h
    exact absurd h fillTokens_malformed
  | text char cs hscan ih =>
    -- A character goes on with the text before it.
    rw [List.cons_append, hscan] at h
    obtain ⟨middle, hmiddle, hlayout⟩ := fillTokens_glue_inv h
    obtain ⟨rest, hrest, hchars⟩ := ih hmiddle
    obtain ⟨c', hfilled, hfront⟩ := exists_fillTokens_glue char hrest
    rw [hscan]
    exact ⟨c', hfilled, by rw [hlayout, hchars, hfront, List.cons_append]⟩
  | kept st next char cs hscan ih =>
    rw [List.cons_append, hscan] at h
    rw [hscan]
    exact ih h
  | token st t char cs hscan ih =>
    -- A directive ends here, and fills to the same whatever comes after it.
    rw [List.cons_append, hscan] at h
    obtain ⟨shown, next, middle, hmiddle, hlayout, hsame⟩ := fillTokens_cons_inv h
    obtain ⟨rest, hrest, hchars⟩ := ih hmiddle
    obtain ⟨c', hfilled, hfront⟩ := hsame _ _ _ hrest
    rw [hscan]
    exact ⟨c', hfilled, by rw [hlayout, hchars, hfront, List.append_assoc]⟩
  | malformed st m char cs hscan =>
    rw [List.cons_append, hscan] at h
    exact absurd h fillTokens_malformed

end Fill

/-! ## The text of the template -/

/-- The template is told in errors only: a slot takes the same argument for any other. -/
theorem Taken.next_format {format : String} {received : Nat} {taken : Taken} {slot : Slot}
    {digits : List Char} {r : Nat × Taken} (h : taken.next format received slot digits = .ok r)
    (format' : String) : taken.next format' received slot digits = .ok r := by
  unfold Taken.next at h ⊢
  split at h
  · next hdigits =>
    -- without a number: the next argument in order
    rw [if_pos hdigits]
    split at h
    · cases h
    · next hrange =>
      rw [if_neg hrange]
      split at h
      · next hway => rw [if_pos hway, h]
      · cases h
  · next hdigits =>
    -- with a number: the argument at that position
    rw [if_neg hdigits]
    cases hnumber : Text.numeral 10 digits with
    | error fault =>
      rw [hnumber] at h
      cases h
    | ok number =>
      simp only [hnumber] at h ⊢
      split at h
      · cases h
      · next hrange =>
        rw [if_neg hrange]
        split at h
        · next hway => rw [if_pos hway, h]
        · cases h

theorem fillTokens_format {format : String} {arguments : List Argument} {ts : List Token}
    {taken taken' : Taken} {c : Code}
    (h : fillTokens format arguments taken ts = .ok (c, taken')) (format' : String) :
    fillTokens format' arguments taken ts = .ok (c, taken') := by
  induction ts generalizing taken c with
  | nil => exact h
  | cons t ts ih =>
    cases t with
    | text chars =>
      obtain ⟨rest, hrest, rfl⟩ := fillTokens_text_iff.1 h
      exact fillTokens_text_iff.2 ⟨rest, ih hrest, rfl⟩
    | directive d =>
      obtain ⟨rest, hrest, rfl⟩ := fillTokens_directive_iff.1 h
      exact fillTokens_directive_iff.2 ⟨rest, ih hrest, rfl⟩
    | slot s digits =>
      obtain ⟨position, next, converted, rest, hnext, hconverted, hrest, rfl⟩ :=
        fillTokens_slot_iff.1 h
      exact fillTokens_slot_iff.2
        ⟨position, next, converted, rest, Taken.next_format hnext format',
          hconverted, ih hrest, rfl⟩
    | malformed m => exact absurd h fillTokens_malformed

/-! ## Templates between texts -/

section Frame

variable {front format behind : String}

theorem framed_toList (front format behind : String) :
    (escapePercent front ++ format ++ behind).toList =
      escaped front.toList ++ (format.toList ++ behind.toList) := by
  simp [escapePercent, escaped]

/-- The texts around a template give no indentation. -/
theorem mem_tokens_framed {d : Directive} (hbehind : IsEnding behind.toList)
    (h : .directive d ∈ tokens (escapePercent front ++ format ++ behind)) :
    d = .percent ∨ .directive d ∈ tokens format := by
  rw [tokens, framed_toList] at h
  exact (mem_scan_escaped h).imp_right (mem_scan_ending hbehind)

/-- A template between two texts fills to what it fills to by itself, between the two. -/
theorem instantiate_framed {arguments : List Argument} {c : Code} (hbehind : IsEnding behind.toList)
    (h : instantiate (escapePercent front ++ format ++ behind) arguments = .ok c) :
    ∃ inner, instantiate format arguments = .ok inner ∧
      chars c.layout = front.toList ++ chars inner.layout ++ behind.toList := by
  simp only [instantiate, bind_eq_ok_iff, pure_eq_ok_iff] at h ⊢
  obtain ⟨⟨block, taken⟩, hblock, ⟨⟩, hcheck, rfl⟩ := h
  obtain ⟨-, hway, -⟩ := fillTokens_fills (.inl rfl) hblock
  rw [tokens, framed_toList] at hblock
  obtain ⟨rest, hrest, hfront⟩ := fillTokens_escaped_inv hblock
  obtain ⟨inner, hinner, hback⟩ := fillTokens_ending_inv hbehind hrest
  refine ⟨inner, ⟨(inner, taken), fillTokens_format hinner format, (),
    (Taken.check_eq_ok_iff hway).2 ((Taken.check_eq_ok_iff hway).1 hcheck), rfl⟩, ?_⟩
  rw [hfront, hback, List.append_assoc]

end Frame

end Template

end SwiftDecl
