import SwiftDecl.Proofs.Code.Emission
import SwiftDecl.Proofs.Layout.InTurn

/-!
# Documentation line for line

The text of a block does not depend on how it is cut into parts and arguments (`Code.wording`). As
documentation it is written line for line, each line after its indentation and the mark of comments,
and the lines without these are the text again, with its last line ended
(`Code.doc_line_for_line`).
-/

namespace SwiftDecl

open Layout

/-! ## Lines that are ended -/

namespace Text

/-- The lines of a text, without the empty piece that is left after its last line end. An empty text
has none. -/
def wholeLines (s : String) : List String :=
  if (lines s).getLast? = some "" then (lines s).dropLast else lines s

/-- The text with its last line ended. -/
def ended (s : String) : String :=
  if s = "" ∨ s.toList.getLast? = some '\n' then s else s ++ "\n"

/-- A text is its lines up to the last, each of them ended, and the last one. -/
theorem exists_lines_eq_concat (s : String) :
    ∃ front last, lines s = front ++ [last] ∧ s = String.join (front.map (· ++ "\n")) ++ last := by
  have hsome : lines s ≠ [] := by simp [lines, List.splitOn_ne_nil]
  have hlast := List.dropLast_concat_getLast hsome
  refine ⟨(lines s).dropLast, (lines s).getLast hsome, hlast.symm, ?_⟩
  have hjoin := join_lines s
  rw [← hlast, List.map_append, String.join_append, List.map_singleton,
    String.join_cons, String.join_nil, String.append_empty, ← String.append_assoc] at hjoin
  exact (String.append_left_inj "\n").1 hjoin.symm

/-- Lines that are ended are no text, or a text that ends a line. -/
theorem ended_join (ls : List String) :
    ended (String.join (ls.map (· ++ "\n"))) = String.join (ls.map (· ++ "\n")) := by
  rw [ended, if_pos]
  rcases List.eq_nil_or_concat ls with rfl | ⟨front, last, rfl⟩
  · exact .inl rfl
  · right
    simp

/-- A text that ends within a line lacks a line end. -/
theorem ended_of_within {s t : String} (ht : '\n' ∉ t.toList) (hne : t ≠ "") :
    ended (s ++ t) = s ++ t ++ "\n" := by
  have hchars : t.toList ≠ [] := by simpa using hne
  rw [ended, if_neg]
  rintro (hempty | hfeed)
  · exact hne (String.append_eq_empty_iff.1 hempty).2
  · rw [String.toList_append, List.getLast?_append, List.getLast?_eq_some_getLast hchars,
      Option.some_or] at hfeed
    have hin := List.getLast_mem hchars
    rw [Option.some.inj hfeed] at hin
    exact ht hin

/-- The lines, each of them ended, are the text with its last line ended. -/
theorem join_wholeLines (s : String) :
    String.join ((wholeLines s).map (· ++ "\n")) = ended s := by
  obtain ⟨front, last, hlines, hs⟩ := exists_lines_eq_concat s
  have hlast : '\n' ∉ last.toList := by
    apply newline_not_mem_of_mem_lines (s := s)
    simp [hlines]
  unfold wholeLines
  by_cases hempty : last = ""
  · subst hempty
    rw [String.append_empty] at hs
    rw [hlines, if_pos (by simp), List.dropLast_concat, hs, ended_join]
  · rw [if_neg (by simpa [hlines] using hempty), join_lines, hs, ended_of_within hlast hempty]

/-- Each line is without line ends. -/
theorem newline_not_mem_of_mem_wholeLines {s l : String} (h : l ∈ wholeLines s) :
    '\n' ∉ l.toList := by
  unfold wholeLines at h
  split at h
  · exact newline_not_mem_of_mem_lines (List.dropLast_subset _ h)
  · exact newline_not_mem_of_mem_lines h

end Text

/-! ## Comments -/

namespace Text

/-- What stands after an indentation of the given length, the mark of comments and, unless the line
is empty, a space. -/
def afterMark (indentation : Nat) (cs : List Char) : List Char :=
  match cs.drop (indentation + 3) with
  | ' ' :: rest => rest
  | rest => rest

theorem length_afterMark (indentation : Nat) (cs : List Char) :
    (afterMark indentation cs).length ≤ cs.length - 3 := by
  have hdrop : (cs.drop (indentation + 3)).length = cs.length - (indentation + 3) :=
    List.length_drop
  unfold afterMark
  split
  · next hspace =>
    rw [hspace, List.length_cons] at hdrop
    omega
  · omega

/-- The text of comments: the lines without what stands before them, each of them ended. -/
def uncommented (indentation : Nat) : List Char → List Char
  | [] => []
  | c :: cs =>
    (afterMark indentation (c :: cs)).takeWhile (· != '\n') ++
      '\n' :: uncommented indentation ((afterMark indentation (c :: cs)).dropWhile (· != '\n')).tail
termination_by cs => cs.length
decreasing_by
  have hmark := length_afterMark indentation (c :: cs)
  have hdrop := (List.dropWhile_sublist (l := afterMark indentation (c :: cs))
    (· != '\n')).length_le
  rw [List.length_tail]
  rw [List.length_cons] at hmark ⊢
  omega

/-- A line as a comment. -/
def commentLine (indentation l : String) : String :=
  indentation ++ (if l = "" then "///" else "/// " ++ l) ++ "\n"

/-- A text as a comment, line for line. -/
def comment (indentation s : String) : String :=
  String.join ((wholeLines s).map (commentLine indentation))

theorem afterMark_commentLine (indentation l : String) (rest : List Char) :
    afterMark indentation.length ((commentLine indentation l).toList ++ rest) =
      l.toList ++ '\n' :: rest := by
  have hdrop : ∀ cs : List Char,
      (indentation.toList ++ '/' :: '/' :: '/' :: cs).drop (indentation.length + 3) = cs := by
    intro cs
    rw [← String.length_toList, List.drop_append]
    simp
  unfold afterMark commentLine
  by_cases hl : l = ""
  · have hblank : (indentation ++ (if l = "" then "///" else "/// " ++ l) ++ "\n").toList ++ rest =
        indentation.toList ++ '/' :: '/' :: '/' :: '\n' :: rest := by simp [hl]
    rw [hblank, hdrop]
    simp [hl]
  · have hline : (indentation ++ (if l = "" then "///" else "/// " ++ l) ++ "\n").toList ++ rest =
        indentation.toList ++ '/' :: '/' :: '/' :: ' ' :: (l.toList ++ '\n' :: rest) := by simp [hl]
    rw [hline, hdrop]
    rfl

/-- A line is read back from the comment that it is written as. -/
theorem uncommented_commentLine {indentation l : String} (hl : '\n' ∉ l.toList)
    (rest : List Char) :
    uncommented indentation.length ((commentLine indentation l).toList ++ rest) =
      l.toList ++ '\n' :: uncommented indentation.length rest := by
  have hmark := afterMark_commentLine indentation l rest
  have hline : ∀ c ∈ l.toList, (c != '\n') = true := by
    intro c hc
    rw [bne_iff_ne]
    rintro rfl
    exact hl hc
  cases hshown : (commentLine indentation l).toList ++ rest with
  | nil => simp [commentLine] at hshown
  | cons c cs =>
    rw [hshown] at hmark
    rw [uncommented, hmark, List.takeWhile_append_of_pos hline, List.dropWhile_append_of_pos hline]
    simp

/-- A text is read back from the comment that it is written as, with its last line ended. -/
theorem uncommented_comment (indentation s : String) :
    uncommented indentation.length (comment indentation s).toList = (ended s).toList := by
  have hlines : ∀ ls : List String, (∀ l ∈ ls, '\n' ∉ l.toList) →
      uncommented indentation.length (String.join (ls.map (commentLine indentation))).toList =
        (String.join (ls.map (· ++ "\n"))).toList := by
    intro ls
    induction ls with
    | nil =>
      intro _
      simp [uncommented]
    | cons l ls ih =>
      intro h
      have hrest := ih fun m hm => h m (List.mem_cons_of_mem l hm)
      rw [List.map_cons, String.join_cons, String.toList_append,
        uncommented_commentLine (h l List.mem_cons_self), hrest]
      simp
  rw [comment, hlines _ fun _ => newline_not_mem_of_mem_wholeLines, join_wholeLines]

end Text

namespace Writer

variable {w : Writer}

/-- A text leaves the writer at the start of a line if it ends one, or if it is empty and there was
one. -/
theorem atLineStart_emit (w : Writer) (s : String) :
    (w.emit s).atLineStart = true ↔
      (s = "" ∧ w.atLineStart = true) ∨ s.toList.getLast? = some '\n' := by
  rcases List.eq_nil_or_concat s.toList with hnil | ⟨front, last, hlast⟩
  · obtain rfl : s = "" := String.toList_eq_nil_iff.1 hnil
    simp [emit]
  · have hne : s ≠ "" := by
      rintro rfl
      simp at hlast
    rw [emit, hlast, List.concat_eq_append, List.foldl_append, List.foldl_cons, List.foldl_nil]
    unfold put
    split <;> simp_all

/-- A text with its last line ended. -/
theorem emit_ended (hstart : w.atLineStart = true) (s : String) :
    w.emit (Text.ended s) =
      { w with output := w.output ++ String.join ((Text.wholeLines s).map w.line) } := by
  rw [← Text.join_wholeLines,
    emit_ended_lines (fun _ => Text.newline_not_mem_of_mem_wholeLines) hstart]

/-- The end of documentation ends the last line of a text. -/
theorem endDoc_emit (hstart : w.atLineStart = true) (s : String) :
    (w.emit s).endDoc =
      { w with
        output := w.output ++ String.join ((Text.wholeLines s).map w.line)
        inDoc := false
        openDocs := w.openDocs - 1 } := by
  have hended : (if (w.emit s).atLineStart then w.emit s else (w.emit s).emit "\n") =
      w.emit (Text.ended s) := by
    have hthere := atLineStart_emit w s
    rw [hstart] at hthere
    unfold Text.ended
    by_cases hends : s = "" ∨ s.toList.getLast? = some '\n'
    · rw [if_pos hends, if_pos (hthere.2 (by simpa using hends))]
    · rw [if_neg hends, if_neg fun h => hends (by simpa using hthere.1 h), ← emit_append]
  rw [endDoc, hended, emit_ended hstart]

/-- A line of documentation. -/
theorem line_beginDoc (w : Writer) : w.beginDoc.line = Text.commentLine w.indentation := by
  funext l
  have hsame : w.beginDoc.indentation = w.indentation := rfl
  have hdoc : w.beginDoc.inDoc = true := rfl
  unfold line lineStart Text.commentLine
  rw [hsame, hdoc]
  split
  · simp
  · simp [String.append_assoc]

/-- A text in documentation is written as a comment. -/
theorem endDoc_beginDoc_emit (hstart : w.atLineStart = true) (hdoc : w.inDoc = false) (s : String) :
    (w.beginDoc.emit s).endDoc = { w with output := w.output ++ Text.comment w.indentation s } := by
  rw [endDoc_emit (w := w.beginDoc) hstart, line_beginDoc]
  simp [Text.comment, beginDoc, hdoc]

end Writer

/-! ## The text of a block -/

/-- The text of a directive. -/
def Directive.wording : Directive → String
  | percent => "%"
  | space => " "
  | _ => ""

/-- The text of parts in order. Each slot shows the next argument. -/
def Part.wording : List Part → (arguments : List (Slot → String)) → String
  | [], _ => ""
  | .text s :: parts, arguments => s ++ Part.wording parts arguments
  | .directive d :: parts, arguments => d.wording ++ Part.wording parts arguments
  | .slot _ :: parts, [] => Part.wording parts []
  | .slot s :: parts, argument :: arguments => argument s ++ Part.wording parts arguments

/-- A text in a slot: a slot for strings quotes it. -/
def Slot.wording (text : String) : Slot → String
  | string => Text.stringLiteral text
  | _ => text

/-- Nothing in a slot. -/
def Slot.nullWording : Slot → String
  | string => "nil"
  | _ => "None"

mutual

/-- The text of an argument in the slot that holds it. -/
def Argument.wording : Argument → Slot → String
  | .text s => Slot.wording s
  | .integer i => Slot.wording (toString i)
  | .float x => Slot.wording (Decimal.floatText x)
  | .boolean b => Slot.wording (shownBool b)
  | .null => Slot.nullWording
  | .type t => Slot.wording t.text
  | .code c => Slot.wording c.wording
  | _ => Slot.wording ""

/-- The texts of several arguments in the slots that hold them. -/
def Argument.wordings : List Argument → List (Slot → String)
  | [] => []
  | a :: as => a.wording :: Argument.wordings as

/-- The text of a block: its texts in order, with those of its arguments in their places. -/
def Code.wording : Code → String
  | ⟨parts, arguments⟩ => Part.wording parts (Argument.wordings arguments)

end

theorem Directive.chars_layout (d : Directive) : d.layout.chars = d.wording.toList := by
  cases d <;> rfl

/-- A slot that is not for literals writes what it keeps as its text. -/
theorem Slot.chars_of_convert {s : Slot} {a converted : Argument} (hs : s ≠ .literal)
    (h : s.convert a = .ok converted) :
    (converted.placed s).chars = (converted.wording s).toList := by
  rcases Slot.kept_of_convert hs h with
    ⟨rfl, rfl | ⟨text, rfl⟩⟩ | ⟨rfl, t, rfl⟩ | ⟨rfl, name, rfl⟩
  all_goals
    simp only [Argument.placed, Argument.wording]
    exact List.append_nil _

/-- Slots are written as the texts of what they hold, if it is as a literal. -/
theorem Code.Holds.chars_fill {parts : List Part} {kept : List Argument} (h : Code.Holds parts kept)
    (hkept : ∀ a ∈ kept, (a.placed .literal).chars = (a.wording .literal).toList) :
    (fill parts (Argument.placedAll kept)).chars =
      (Part.wording parts (Argument.wordings kept)).toList := by
  induction h with
  | nil => rfl
  | text s _ ih =>
    rw [fill, Part.wording, chars_text, ih hkept, String.toList_append]
  | directive d _ ih =>
    rw [fill, Part.wording, chars_append, ih hkept, d.chars_layout, String.toList_append]
  | @slot parts kept s a converted hconverted _ ih =>
    have hrest := ih fun b hb => hkept b (List.mem_cons_of_mem converted hb)
    have hfirst : (converted.placed s).chars = (converted.wording s).toList := by
      by_cases hs : s = .literal
      · rw [hs]
        exact hkept converted List.mem_cons_self
      · exact Slot.chars_of_convert hs hconverted
    rw [Argument.placedAll, Argument.wordings, fill, Part.wording, chars_append, hrest, hfirst,
      String.toList_append]

mutual

/-- As a literal, a basic argument is written as its text. -/
theorem Argument.IsBasic.chars_literal : ∀ a : Argument, a.IsBasic →
    (a.placed .literal).chars = (a.wording .literal).toList
  | .code c, h => by
    cases h with
    | code hc =>
      rw [Argument.placed, Argument.wording]
      exact Code.IsBasic.chars_layout c hc
  | .text _, _ | .integer _, _ | .float _, _ | .boolean _, _ | .null, _ | .type _, _ => by
    simp only [Argument.placed, Argument.wording]
    exact List.append_nil _
  | .parameter _, h | .attribute _, h | .function _, h | .typeDecl _, h | .modifier _, h => by
    cases h

theorem Argument.IsBasic.chars_literals : ∀ as : List Argument, (∀ a ∈ as, a.IsBasic) →
    ∀ a ∈ as, (a.placed .literal).chars = (a.wording .literal).toList
  | [], _ => by simp
  | a :: as, h => by
    have hfirst := Argument.IsBasic.chars_literal a (h a List.mem_cons_self)
    have hrest := Argument.IsBasic.chars_literals as fun b hb => h b (List.mem_cons_of_mem a hb)
    exact List.forall_mem_cons.2 ⟨hfirst, hrest⟩

/-- The texts that a basic block is written as are its text together. -/
theorem Code.IsBasic.chars_layout : ∀ c : Code, c.IsBasic → c.layout.chars = c.wording.toList
  | ⟨parts, arguments⟩, h => by
    cases h with
    | mk built hbasic =>
      rw [Code.layout, Code.wording]
      exact built.holds.chars_fill (Argument.IsBasic.chars_literals arguments hbasic)

end

/-! ## Documentation -/

/-- Without shifts there are texts alone. -/
theorem Layout.Follows.onlyTexts {layout : Layout} (h : Follows layout []) : OnlyTexts layout := by
  intro step hstep
  have hplain := h.plain step hstep
  have hshift := List.filterMap_eq_nil_iff.1 h.shifts_eq step hstep
  cases step with
  | text s => exact ⟨s, rfl⟩
  | indent => cases hshift
  | unindent => cases hshift
  | _ => exact hplain.elim

/-- A basic block without shifts is documented as its text is. -/
theorem Code.IsBasic.docLayout_alike {c : Code} (hc : c.IsBasic) (hshifts : c.shifts = [])
    (hsome : c.isEmpty = false) :
    Alike (docLayout c c.layout) [.beginDoc, .text c.wording, .endDoc] := by
  have hfollows := Code.IsBasic.follows c hc
  rw [hshifts] at hfollows
  have halike := hfollows.onlyTexts.alike
  rw [Code.IsBasic.chars_layout c hc, String.ofList_toList] at halike
  rw [docLayout, if_neg (by simp [hsome])]
  exact ((alike_refl [.beginDoc]).append halike).append (alike_refl [.endDoc])

/-- A basic block without shifts, as documentation from the start of a line: its text is written as
a comment, line for line, whatever the level and however the text is cut into parts and arguments. A
writer that watches the bounds does the same, if the indentation of the lines can be made. Without
indentations and marks the lines are the text, with its last line ended. -/
theorem Code.doc_line_for_line {c : Code} (hc : c.IsBasic) (hshifts : c.shifts = []) {w : Writer}
    (hstart : w.atLineStart = true) (hdoc : w.inDoc = false) :
    let shown := Text.comment w.indentation c.wording
    w.write (docLayout c c.layout) = ({ w with output := w.output ++ shown }, none) ∧
      (Text.copiesFault? w.level w.unit = none →
        w.writeBounded (docLayout c c.layout) = ({ w with output := w.output ++ shown }, none)) ∧
      Text.uncommented w.indentation.length shown.toList = (Text.ended c.wording).toList := by
  intro shown
  have hback := Text.uncommented_comment w.indentation c.wording
  cases hempty : c.isEmpty with
  | true =>
    -- A block without parts leaves no trace, and it has no text either.
    obtain ⟨parts, arguments⟩ := c
    obtain rfl : parts = [] := by simpa [Code.isEmpty] using hempty
    have hnothing : shown = "" := by
      unfold shown
      rw [Code.wording, Part.wording]
      rfl
    rw [docLayout, if_pos hempty, hnothing, String.append_empty]
    exact ⟨rfl, fun _ => rfl, by rw [← hnothing]; exact hback⟩
  | false =>
    -- With text in it, the block is written like its text, between the two steps for
    -- documentation.
    have halike := hc.docLayout_alike hshifts hempty
    have hended := Writer.endDoc_beginDoc_emit hstart hdoc c.wording
    have hunbounded : w.write [.beginDoc, .text c.wording, .endDoc] =
        ((w.beginDoc.emit c.wording).endDoc, none) := rfl
    refine ⟨?_, ?_, hback⟩
    · rw [halike.write, hunbounded, hended]
    · -- The bounds are those of the indentation, which only the text between the two steps reads.
      intro hbounds
      have hbegin : w.Writes [.beginDoc] w.beginDoc := Writer.writes_step rfl (by simp)
      have htext : w.beginDoc.Writes [.text c.wording] (w.beginDoc.emit c.wording) :=
        Writer.writes_text (w := w.beginDoc) hbounds c.wording
      have hend : (w.beginDoc.emit c.wording).Writes [.endDoc]
          (w.beginDoc.emit c.wording).endDoc := Writer.writes_step rfl (by simp)
      have hbounded := ((hbegin.append htext).append hend).bounded
      rw [halike.bounded, ← hended]
      exact hbounded

/-- A text that is cut in the middle of a line and before an empty one, with a nested block and a
quoted line end, at level one. -/
theorem Code.doc_line_for_line_cut :
    let inner : Code := { parts := [.text "\n", .slot .literal], arguments := [.integer 7] }
    let c : Code := {
      parts := [.text "One", .slot .literal, .directive .space, .slot .string, .text "\n\n",
        .slot .type]
      arguments := [.code inner, .text "a\nb", .type (.array .int)] }
    let w : Writer := { level := 1, output := "x\n" }
    (c.IsBasic ∧ c.shifts = [] ∧ w.atLineStart = true ∧ w.inDoc = false) ∧
      c.wording = "One\n7 \"a\\nb\"\n\n[Int]" ∧
      w.write (docLayout c c.layout) =
        ({ w with
          output := "x\n  /// One\n  /// 7 \"a\\nb\"\n  ///\n  /// [Int]\n" }, none) ∧
      Text.uncommented 2 "  /// One\n  /// 7 \"a\\nb\"\n  ///\n  /// [Int]\n".toList =
        "One\n7 \"a\\nb\"\n\n[Int]\n".toList := by
  intro inner c w
  have hadd : ({} : Code).add "\n%L" [.integer 7] = .ok inner := rfl
  have hadd' : ({} : Code).add "One%L%W%S\n\n%T"
      [.code inner, .text "a\nb", .type (.array .int)] = .ok c := rfl
  -- Both blocks are built by templates from basic arguments.
  have hinner : inner.IsBasic := by
    refine .mk (.add .empty hadd) fun a ha => ?_
    obtain rfl : a = .integer 7 := by simpa [inner] using ha
    exact .integer 7
  have hc : c.IsBasic := by
    refine .mk (.add .empty hadd') fun a ha => ?_
    have hcases : a = .code inner ∨ a = .text "a\nb" ∨ a = .type (.array .int) := by
      simpa [c] using ha
    rcases hcases with rfl | rfl | rfl
    · exact .code hinner
    · exact .text _
    · exact .type _
  have hshifts : c.shifts = [] := by
    simp [c, inner, Code.shifts, Argument.shiftsAll, Argument.shifts, Part.shifts,
      Directive.shifts]
  have hwording : c.wording = "One\n7 \"a\\nb\"\n\n[Int]" := by
    rfl
  have hwritten := (Code.doc_line_for_line hc hshifts (w := w) rfl rfl).1
  have hback := (Code.doc_line_for_line hc hshifts (w := w) rfl rfl).2.2
  -- The texts themselves are evaluated.
  have hcomment : Text.comment w.indentation c.wording =
      "  /// One\n  /// 7 \"a\\nb\"\n  ///\n  /// [Int]\n" := by
    rw [hwording]
    decide +kernel
  have hended : Text.ended c.wording = "One\n7 \"a\\nb\"\n\n[Int]\n" := by
    rw [hwording]
    decide +kernel
  have htwo : w.indentation.length = 2 := by decide
  rw [hcomment] at hwritten
  rw [hcomment, hended, htwo] at hback
  exact ⟨⟨hc, hshifts, rfl, rfl⟩, hwording, hwritten, hback⟩

end SwiftDecl
