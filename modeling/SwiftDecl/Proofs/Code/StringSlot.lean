import SwiftDecl.Proofs.Code.Filling
import SwiftDecl.Proofs.Layout.Lines

/-!
# Strings in slots

A slot for strings shows its argument as a string literal. `Text.Escaped` says how the inside of a
literal spells characters, and `Text.readLiteral` reads a literal back, up to the quote that closes
it and no further. What is written for a string is one such literal on one line
(`Text.isLiteralOf_stringLiteral`), so the string can be read back whatever comes after it
(`Code.string_slot_round_trip`).

The escapes are put in character by character. That is what five replacements in turn give, as long
as the backslash is replaced first (`Text.foldl_replaced_eq_flatMap`).
-/

namespace SwiftDecl

/-! ## Literals -/

namespace Text

/-- The character that an escape stands for, by the letter after its backslash. -/
def escapeMeaning? : Char → Option Char
  | '\\' => some '\\'
  | '"' => some '"'
  | 'n' => some '\n'
  | 't' => some '\t'
  | 'r' => some '\r'
  | _ => none

/-- The character cannot stand for itself inside of a literal: it would end the literal or its line,
or start an escape. -/
def NeedsEscape (c : Char) : Prop :=
  c = '"' ∨ c = '\\' ∨ c = '\n' ∨ c = '\r'

instance (c : Char) : Decidable (NeedsEscape c) :=
  inferInstanceAs (Decidable (_ ∨ _))

/-- The inside of a literal, and the characters that it spells. Each quote and each backslash inside
belongs to an escape. -/
inductive Escaped : (inside : List Char) → (spelled : List Char) → Prop where
  | nil : Escaped [] []
  | plain {c : Char} {inside spelled : List Char} :
      ¬ NeedsEscape c → Escaped inside spelled → Escaped (c :: inside) (c :: spelled)
  | escape {letter c : Char} {inside spelled : List Char} :
      escapeMeaning? letter = some c → Escaped inside spelled →
        Escaped ('\\' :: letter :: inside) (c :: spelled)

/-- Reads a literal after its opening quote: the characters that it spells, and what comes after its
closing quote. A backslash that starts no escape, such as one that starts an interpolation, is
refused, and so is the end of the line. -/
def readInside : List Char → Option (List Char × List Char)
  | [] => none
  | '"' :: rest => some ([], rest)
  | '\\' :: letter :: rest => do
    let c ← escapeMeaning? letter
    let (spelled, behind) ← readInside rest
    return (c :: spelled, behind)
  | c :: rest =>
    if NeedsEscape c then none
    else do
      let (spelled, behind) ← readInside rest
      return (c :: spelled, behind)

/-- Reads a literal: the characters that it spells, and what comes after it. -/
def readLiteral : List Char → Option (List Char × List Char)
  | '"' :: rest => readInside rest
  | _ => none

/-- What is read up to a closing quote is what spells the characters. -/
theorem readInside_eq_some_iff {cs spelled behind : List Char} :
    readInside cs = some (spelled, behind) ↔
      ∃ inside, cs = inside ++ '"' :: behind ∧ Escaped inside spelled := by
  constructor
  · intro h
    induction cs using readInside.induct generalizing spelled with
    | case1 =>
      -- The literal is not closed.
      cases h
    | case2 rest =>
      -- the closing quote
      cases h
      exact ⟨[], rfl, .nil⟩
    | case3 letter rest ih =>
      -- a backslash and its letter
      simp only [readInside, Option.bind_eq_bind, Option.bind_eq_some_iff, Option.pure_def,
        Option.some.injEq, Prod.mk.injEq] at h
      obtain ⟨c, hmeaning, ⟨inner, left⟩, hrest, rfl, rfl⟩ := h
      obtain ⟨inside, rfl, hinside⟩ := ih hrest
      exact ⟨'\\' :: letter :: inside, rfl, .escape hmeaning hinside⟩
    | case4 c rest hquote hescape hneeds =>
      -- a character that has to be escaped and is not
      rw [readInside, if_pos hneeds] at h
      · cases h
      · exact hquote
      · exact hescape
    | case5 c rest hquote hescape hneeds ih =>
      -- any other character, which stands for itself
      rw [readInside, if_neg hneeds] at h
      · simp only [Option.bind_eq_bind, Option.bind_eq_some_iff, Option.pure_def,
          Option.some.injEq, Prod.mk.injEq] at h
        obtain ⟨⟨inner, left⟩, hrest, rfl, rfl⟩ := h
        obtain ⟨inside, rfl, hinside⟩ := ih hrest
        exact ⟨c :: inside, rfl, .plain hneeds hinside⟩
      · exact hquote
      · exact hescape
  · -- Conversely, each step of the spelling is read by its own equation.
    rintro ⟨inside, rfl, h⟩
    induction h with
    | nil => rfl
    | @plain c inside spelled hplain _ ih =>
      have hquote : c ≠ '"' := fun hc => hplain (.inl hc)
      have hbackslash : c ≠ '\\' := fun hc => hplain (.inr (.inl hc))
      rw [List.cons_append, readInside, if_neg hplain, ih]
      · rfl
      · exact hquote
      · intro letter rest hc
        exact absurd hc hbackslash
    | @escape letter c inside spelled hmeaning _ ih =>
      rw [List.cons_append, List.cons_append, readInside, hmeaning, ih]
      rfl

/-- No line ends inside of a literal. -/
theorem Escaped.one_line {inside spelled : List Char} (h : Escaped inside spelled) :
    '\n' ∉ inside ∧ '\r' ∉ inside := by
  induction h with
  | nil => simp
  | @plain c inside spelled hplain _ ih =>
    have hfeed : '\n' ≠ c := fun hc => hplain (.inr (.inr (.inl hc.symm)))
    have hreturn : '\r' ≠ c := fun hc => hplain (.inr (.inr (.inr hc.symm)))
    simp [ih, hfeed, hreturn]
  | @escape letter c inside spelled hmeaning _ ih =>
    have hfeed : '\n' ≠ letter := by
      rintro rfl
      cases hmeaning
    have hreturn : '\r' ≠ letter := by
      rintro rfl
      cases hmeaning
    simp [ih, hfeed, hreturn]

/-- The text is a literal that spells the string: on one line, between quotes, and read back from
whatever text it stands in front of. -/
structure IsLiteralOf (q s : String) : Prop where
  one_line : '\n' ∉ q.toList ∧ '\r' ∉ q.toList
  quoted : ∃ inside, q.toList = '"' :: inside ++ ['"'] ∧ Escaped inside s.toList
  read : ∀ behind, readLiteral (q.toList ++ behind) = some (s.toList, behind)

theorem Escaped.isLiteralOf {q s : String} {inside : List Char} (h : Escaped inside s.toList)
    (hq : q.toList = '"' :: inside ++ ['"']) : IsLiteralOf q s where
  one_line := by
    rw [hq]
    simp [h.one_line]
  quoted := ⟨inside, hq, h⟩
  read := by
    intro behind
    rw [hq, List.cons_append, List.cons_append, List.append_assoc]
    exact readInside_eq_some_iff.2 ⟨inside, rfl, h⟩

/-- A literal spells one string only. -/
theorem IsLiteralOf.unique {q s t : String} (hs : IsLiteralOf q s) (ht : IsLiteralOf q t) :
    s = t := by
  have hread := hs.read []
  rw [ht.read [], Option.some.injEq, Prod.mk.injEq] at hread
  exact String.toList_inj.1 hread.1.symm

/-! ## The literal of a string -/

/-- A character that needs no escape, and is no tab, is written as it is. -/
theorem literalChar_plain {c : Char} (hplain : ¬ NeedsEscape c) (htab : c ≠ '\t') :
    literalChar c = [c] := by
  unfold literalChar
  split <;> simp_all [NeedsEscape]

/-- One character is written as itself or as an escape. -/
theorem escaped_literalChar (c : Char) {inside spelled : List Char} (h : Escaped inside spelled) :
    Escaped (literalChar c ++ inside) (c :: spelled) := by
  by_cases hc : NeedsEscape c ∨ c = '\t'
  · rcases hc with (rfl | rfl | rfl | rfl) | rfl
    all_goals exact .escape rfl h
  · rw [not_or] at hc
    rw [literalChar_plain hc.1 hc.2]
    exact .plain hc.1 h

theorem escaped_flatMap_literalChar (cs : List Char) : Escaped (cs.flatMap literalChar) cs := by
  induction cs with
  | nil => exact .nil
  | cons c cs ih =>
    rw [List.flatMap_cons]
    exact escaped_literalChar c ih

theorem toList_stringLiteral (s : String) :
    (stringLiteral s).toList = '"' :: s.toList.flatMap literalChar ++ ['"'] :=
  String.toList_ofList

/-- The literal of a string spells the string. -/
theorem isLiteralOf_stringLiteral (s : String) : IsLiteralOf (stringLiteral s) s :=
  (escaped_flatMap_literalChar s.toList).isLiteralOf (toList_stringLiteral s)

/-- Different strings have different literals. -/
theorem stringLiteral_inj {s t : String} : stringLiteral s = stringLiteral t ↔ s = t := by
  constructor
  · intro h
    have ht := isLiteralOf_stringLiteral t
    rw [← h] at ht
    exact (isLiteralOf_stringLiteral s).unique ht
  · rintro rfl
    rfl

theorem stringLiteral_ne_nil (s : String) : stringLiteral s ≠ "nil" := by
  intro h
  have hfirst := congrArg String.toList h
  rw [toList_stringLiteral] at hfirst
  cases hfirst

/-! ## Replacements in turn -/

/-- Puts other characters in the place of one, everywhere. -/
def replaced (cs : List Char) (replacement : Char × List Char) : List Char :=
  cs.flatMap fun c => if c = replacement.1 then replacement.2 else [c]

/-- What is put in the place of what, in order. The backslash comes first, since the others bring
backslashes with them. -/
def literalReplacements : List (Char × List Char) :=
  [('\\', ['\\', '\\']), ('"', ['\\', '"']), ('\n', ['\\', 'n']), ('\t', ['\\', 't']),
    ('\r', ['\\', 'r'])]

/-- Replacements go over a text piece by piece. -/
theorem foldl_replaced_append (replacements : List (Char × List Char)) (a b : List Char) :
    replacements.foldl replaced (a ++ b) =
      replacements.foldl replaced a ++ replacements.foldl replaced b := by
  induction replacements generalizing a b with
  | nil => rfl
  | cons r rest ih =>
    have hfirst : replaced (a ++ b) r = replaced a r ++ replaced b r := List.flatMap_append
    rw [List.foldl_cons, hfirst, ih]
    rfl

/-- On one character all replacements in turn do what its escape does. -/
theorem foldl_replaced_singleton (c : Char) :
    literalReplacements.foldl replaced [c] = literalChar c := by
  by_cases hc : NeedsEscape c ∨ c = '\t'
  · rcases hc with (rfl | rfl | rfl | rfl) | rfl
    all_goals decide
  · rw [not_or] at hc
    rw [literalChar_plain hc.1 hc.2]
    obtain ⟨hplain, htab⟩ := hc
    simp only [NeedsEscape, not_or] at hplain
    simp [literalReplacements, replaced, hplain, htab]

/-- The replacements in turn are the escapes, character by character. -/
theorem foldl_replaced_eq_flatMap (cs : List Char) :
    literalReplacements.foldl replaced cs = cs.flatMap literalChar := by
  induction cs with
  | nil => rfl
  | cons c cs ih =>
    rw [← List.singleton_append, foldl_replaced_append, foldl_replaced_singleton, ih]
    rfl

end Text

/-! ## Words within bounds -/

namespace Writer

variable {w : Writer}

/-- What a writer puts in front of the next character on the line. -/
def lineFront (w : Writer) : String :=
  if w.atLineStart then w.lineStart else ""

/-- The writer after a word. -/
def afterWord (w : Writer) (s : String) : Writer :=
  { w with output := w.output ++ w.lineFront ++ s, atLineStart := false }

/-- Characters in the middle of a line need no indentation. -/
theorem emitBounded_of_mid {cs : List Char} (hcs : '\n' ∉ cs) (hmid : w.atLineStart = false) :
    w.emitBounded cs = (cs.foldl put w, none) := by
  induction cs generalizing w with
  | nil => rfl
  | cons c cs ih =>
    rw [List.mem_cons, not_or] at hcs
    have hindents : w.indents c = false := by simp [indents, hmid]
    have hmid' : (w.put c).atLineStart = false := by
      unfold put
      rw [if_neg (Ne.symm hcs.1)]
    rw [emitBounded, hindents, List.foldl_cons]
    exact ih hcs.2 hmid'

/-- A word is written within bounds if the line that it starts can be indented. -/
theorem writes_word {s : String} (hs : '\n' ∉ s.toList) (hne : s ≠ "")
    (hbounds : w.atLineStart = true → Text.copiesFault? w.level w.unit = none) :
    w.Writes [.text s] (w.afterWord s) := by
  have hemit : w.emit s = w.afterWord s := emit_word hs hne w
  cases hstart : w.atLineStart with
  | true =>
    rw [← hemit]
    exact writes_text (hbounds hstart) s
  | false =>
    refine ⟨by rw [← hemit]; rfl, ?_⟩
    rw [writeBounded, stepBounded, emitBounded_of_mid hs hstart, ← hemit]
    rfl

end Writer

/-! ## Slots for strings -/

namespace Code

/-- Every writer writes the block as the word, after what it puts in front of it: the indentation
and the mark of comments if a line starts. A writer that watches the bounds does the same, if the
line can be indented. -/
structure WrittenAsWord (c : Code) (s : String) : Prop where
  write : ∀ w : Writer, w.write c.layout = (w.afterWord s, none)
  bounded : ∀ w : Writer,
    (w.atLineStart = true → Text.copiesFault? w.level w.unit = none) →
      w.writeBounded c.layout = (w.afterWord s, none)

/-- A block of one text without line ends. -/
theorem writtenAsWord {c : Code} {s : String} (hlayout : c.layout = [.text s])
    (hs : '\n' ∉ s.toList) (hne : s ≠ "") : WrittenAsWord c s where
  write := by
    intro w
    have hemit : w.emit s = w.afterWord s := Writer.emit_word hs hne w
    rw [hlayout, ← hemit]
    rfl
  bounded := by
    intro w hbounds
    rw [hlayout]
    exact (Writer.writes_word hs hne hbounds).bounded

/-- A block with one slot for strings writes the literal of what its argument shows there. -/
theorem ofTemplate_string {a : Argument} {shown : Option String} (h : a.string? = .ok shown) :
    ∃ c, ofTemplate "%S" [a] = .ok c ∧ WrittenAsWord c (shown.elim "nil" Text.stringLiteral) := by
  have hconverted : Slot.string.convert a = .ok (shown.elim .null .text) := by
    simp only [Slot.convert, h]
  have hnext : ({} : Template.Taken).next "%S" 1 .string [] = .ok (0, { inOrder := 1 }) := rfl
  let c : Code := { parts := [.slot .string], arguments := [shown.elim .null .text] }
  have hfilled : Template.fillTokens "%S" [a] {} (Template.tokens "%S") =
      .ok (c, { inOrder := 1 }) :=
    Template.fillTokens_slot_iff.2 ⟨0, _, _, {}, hnext, hconverted, rfl, rfl⟩
  -- The literal is the only step of the block.
  have hlayout : c.layout = [.text (shown.elim "nil" Text.stringLiteral)] := by
    have hslot := layout_slot .string (shown.elim .null .text) {}
    rw [layout_empty, List.append_nil] at hslot
    cases shown <;> exact hslot
  refine ⟨c, ?_, ?_⟩
  · rw [ofTemplate, Template.instantiate, hfilled]
    rfl
  · cases shown with
    | none => exact writtenAsWord hlayout (by decide) (by decide)
    | some s =>
      -- A literal is on one line, and never empty since it has its quotes.
      have hliteral := Text.isLiteralOf_stringLiteral s
      refine writtenAsWord hlayout hliteral.one_line.1 ?_
      intro hempty
      have hchars := congrArg String.toList hempty
      rw [Option.elim_some, Text.toList_stringLiteral] at hchars
      cases hchars

/-- An argument that is accepted in a slot for strings shows a string there, or nothing. -/
theorem exists_string_of_ofTemplate {a : Argument} {c : Code} (h : ofTemplate "%S" [a] = .ok c) :
    ∃ shown, a.string? = .ok shown := by
  cases hshown : a.string? with
  | ok shown => exact ⟨shown, rfl⟩
  | error fault =>
    have hrefused : Slot.string.convert a = .error (.noText fault) := by
      simp only [Slot.convert, hshown]
    simp only [ofTemplate, Template.instantiate, bind_eq_ok_iff] at h
    obtain ⟨⟨filled, taken⟩, hfilled, -⟩ := h
    obtain ⟨position, next, converted, rest, hnext, hconverted, -⟩ :=
      Template.fillTokens_slot_iff.1 hfilled
    obtain ⟨hlt, -⟩ := Template.Taken.next_eq_ok hnext
    obtain rfl : position = 0 := Nat.lt_one_iff.1 hlt
    rw [List.getD_cons_zero, hrefused] at hconverted
    cases hconverted

/-- A string in a slot for strings is written as one literal, wherever the writer stands. The
literal is on one line, the quotes and backslashes inside of it belong to escapes, and it is read
back as the string, up to its closing quote, whatever comes after it. It is what five replacements
in turn make of the string. So different strings have different literals, and no literal is the
`nil` that is written for nothing. Every argument that the slot accepts is written in one of these
two ways. -/
theorem string_slot_round_trip :
    (∀ s : String, ∃ c, ofTemplate "%S" [.text s] = .ok c ∧
      WrittenAsWord c (Text.stringLiteral s) ∧
      Text.IsLiteralOf (Text.stringLiteral s) s ∧
      (Text.stringLiteral s).toList =
        '"' :: Text.literalReplacements.foldl Text.replaced s.toList ++ ['"']) ∧
    (∀ s t : String, Text.stringLiteral s = Text.stringLiteral t ↔ s = t) ∧
    (∃ c, ofTemplate "%S" [.null] = .ok c ∧ WrittenAsWord c "nil") ∧
    (∀ s : String, Text.stringLiteral s ≠ "nil") ∧
    ∀ (a : Argument) (c : Code), ofTemplate "%S" [a] = .ok c →
      (a.string? = .ok none ∧ WrittenAsWord c "nil") ∨
        ∃ s, a.string? = .ok (some s) ∧ WrittenAsWord c (Text.stringLiteral s) := by
  refine ⟨?_, fun _ _ => Text.stringLiteral_inj, ?_, Text.stringLiteral_ne_nil, ?_⟩
  · intro s
    have hshown : (Argument.text s).string? = .ok (some s) := rfl
    obtain ⟨c, hc, hwritten⟩ := ofTemplate_string hshown
    refine ⟨c, hc, hwritten, Text.isLiteralOf_stringLiteral s, ?_⟩
    rw [Text.toList_stringLiteral, Text.foldl_replaced_eq_flatMap]
  · have hshown : Argument.null.string? = .ok none := rfl
    exact ofTemplate_string hshown
  · intro a c hc
    obtain ⟨shown, hshown⟩ := exists_string_of_ofTemplate hc
    obtain ⟨c', hc', hwritten⟩ := ofTemplate_string hshown
    rw [hc] at hc'
    cases hc'
    cases shown with
    | none => exact .inl ⟨hshown, hwritten⟩
    | some s => exact .inr ⟨s, hshown, hwritten⟩

/-- A block of code that ends a line, with a backslash before a letter and what looks like the end
of a literal and an interpolation in it, in a comment at level one. -/
theorem string_slot_round_trip_code :
    let inner : Code := { parts := [.text "a\\n\"\\(b)\n"] }
    let c : Code := { parts := [.slot .string], arguments := [.text "a\\n\"\\(b)\n"] }
    let w : Writer := { level := 1, output := "x\n", inDoc := true }
    ofTemplate "%S" [.code inner] = .ok c ∧
      w.write c.layout =
        ({ w with output := "x\n  /// \"a\\\\n\\\"\\\\(b)\\n\"", atLineStart := false }, none) ∧
      Text.readLiteral "\"a\\\\n\\\"\\\\(b)\\n\" + y".toList =
        some ("a\\n\"\\(b)\n".toList, " + y".toList) := by
  intro inner c w
  have hc : ofTemplate "%S" [.code inner] = .ok c := rfl
  obtain ⟨hstrings, -, -, -, harguments⟩ := string_slot_round_trip
  obtain ⟨-, -, -, hliteral, -⟩ := hstrings "a\\n\"\\(b)\n"
  have hshown : (Argument.code inner).string? = .ok (some "a\\n\"\\(b)\n") := rfl
  refine ⟨hc, ?_, hliteral.read " + y".toList⟩
  rcases harguments _ _ hc with ⟨hnothing, -⟩ | ⟨s, hs, hwritten⟩
  · rw [hshown] at hnothing
    cases hnothing
  · rw [hshown] at hs
    cases hs
    exact hwritten.write w

end Code

end SwiftDecl
