import SwiftDecl.Proofs.Layout.Blocks
import SwiftDecl.Writer.Bounded

/-!
# Writing line by line

A writer that stands at the start of a line takes a text with its last line ended as the lines of
the text, each with what the writer puts before it (`Writer.emit_ended_text`). Where there is no
indentation a text is written as it is.

`Writer.Writes` says that a layout is written to its end, within bounds and without, and which
writer is left. It goes from the parts of a layout to the whole.
-/

namespace SwiftDecl

/-! ## Writing step by step -/

namespace Writer

variable {w w' : Writer}

/-- What stands before the first character of a line. -/
def lineStart (w : Writer) : String :=
  w.indentation ++ (if w.inDoc then "/// " else "")

/-- One layout after another is written to its end if both are. -/
theorem write_append_eq_none_iff {a b : Layout} :
    w.write (a ++ b) = (w', none) ↔
      ∃ m, w.write a = (m, none) ∧ m.write b = (w', none) := by
  induction a generalizing w with
  | nil => simp [write]
  | cons s rest ih =>
    rw [List.cons_append, write, write]
    cases hs : w.step s with
    | ok next => exact ih
    | error fault => simp

theorem write_text (w : Writer) (s : String) (rest : Layout) :
    w.write (.text s :: rest) = (w.emit s).write rest := rfl

/-- A text that can be left out. -/
theorem write_optional (b : Bool) (s : String) (w : Writer) (rest : Layout) :
    w.write ((if b then [.text s] else []) ++ rest) =
      (w.emit (if b then s else "")).write rest := by
  cases b
  · simp [emit]
  · rfl

/-- Two texts in turn are one text. -/
theorem emit_append (w : Writer) (s t : String) : w.emit (s ++ t) = (w.emit s).emit t := by
  unfold emit
  rw [String.toList_append, List.foldl_append]

/-- Characters in the middle of a line are written as they are. -/
theorem foldl_put_of_mid {cs : List Char} (hcs : '\n' ∉ cs) (hmid : w.atLineStart = false) :
    cs.foldl put w = { w with output := w.output ++ String.ofList cs } := by
  induction cs generalizing w with
  | nil => simp
  | cons c cs ih =>
    rw [List.mem_cons, not_or] at hcs
    obtain ⟨hc, hrest⟩ := hcs
    have hput : w.put c = { w with output := w.output.push c } := by
      unfold put
      rw [if_neg (Ne.symm hc)]
      simp [hmid]
    have hmid' : (w.put c).atLineStart = false := by rw [hput, hmid]
    rw [List.foldl_cons, ih hrest hmid', hput]
    simp [← String.toList_inj]

/-- A word is written as it is, after the start of the line if a line starts there. -/
theorem emit_word {s : String} (hs : '\n' ∉ s.toList) (hne : s ≠ "") (w : Writer) :
    w.emit s =
      { w with
        output := w.output ++ (if w.atLineStart then w.lineStart else "") ++ s
        atLineStart := false } := by
  unfold emit
  cases hchars : s.toList with
  | nil => exact absurd (String.toList_eq_nil_iff.1 hchars) hne
  | cons c cs =>
    rw [hchars, List.mem_cons, not_or] at hs
    obtain ⟨hc, hrest⟩ := hs
    have hput : w.put c =
        { w with
          output := (w.output ++ (if w.atLineStart then w.lineStart else "")).push c
          atLineStart := false } := by
      unfold put
      rw [if_neg (Ne.symm hc)]
      cases w.atLineStart <;> simp [lineStart, String.append_assoc]
    rw [List.foldl_cons, hput, foldl_put_of_mid hrest rfl]
    simp [← String.toList_inj, hchars]

/-- A word and a line end. -/
theorem emit_line {s : String} (hs : '\n' ∉ s.toList) (hne : s ≠ "") (w : Writer) :
    w.emit (s ++ "\n") =
      { w with
        output := w.output ++ (if w.atLineStart then w.lineStart else "") ++ s ++ "\n"
        atLineStart := true } := by
  rw [emit_append, emit_word hs hne]
  simp [emit, put, ← String.toList_inj]

end Writer

/-! ## Whole lines -/

/-- Texts with a separator between them are the first one, and the others each after a separator. -/
theorem intercalate_cons_eq (separator first : String) (rest : List String) :
    separator.intercalate (first :: rest) =
      first ++ String.join (rest.map fun s => separator ++ s) := by
  induction rest generalizing first with
  | nil => simp
  | cons next others ih =>
    have hnext := ih next
    rw [← String.toList_inj] at hnext ⊢
    rw [String.toList_intercalate, List.map_cons, List.map_cons, List.intercalate_cons_cons,
      ← List.map_cons, ← String.toList_intercalate, hnext]
    simp [String.toList_join]

namespace Text

/-- The lines of a text: what stands between its line ends. -/
def lines (s : String) : List String :=
  (s.toList.splitOn '\n').map String.ofList

/-- The parts between separators hold no separator. -/
theorem not_mem_of_mem_splitOn {x : Char} {cs part : List Char} (h : part ∈ cs.splitOn x) :
    x ∉ part := by
  induction cs generalizing part with
  | nil =>
    rw [List.splitOn_nil, List.mem_singleton] at h
    simp [h]
  | cons c cs ih =>
    rw [List.splitOn, List.splitOnP_cons_eq_if_modifyHead] at h
    by_cases hc : c = x
    · rw [if_pos (by simpa using hc), List.mem_cons] at h
      rcases h with rfl | hrest
      · exact List.not_mem_nil
      · exact ih hrest
    · rw [if_neg (by simpa using hc)] at h
      -- The character goes before the first part of the rest.
      cases hparts : cs.splitOnP (· == x) with
      | nil => exact absurd hparts (List.splitOn_ne_nil x cs)
      | cons first rest =>
        have hfirst : ∀ p ∈ first :: rest, x ∉ p := by
          intro p hp
          rw [← hparts] at hp
          exact ih hp
        rw [hparts, List.modifyHead_cons, List.mem_cons] at h
        rcases h with rfl | hrest
        · rw [List.mem_cons, not_or]
          exact ⟨Ne.symm hc, hfirst first List.mem_cons_self⟩
        · exact hfirst part (List.mem_cons_of_mem first hrest)

/-- Parts that are each followed by a separator are the parts with separators between them, and
one at the end. -/
theorem flatMap_ended {x : Char} {parts : List (List Char)} (h : parts ≠ []) :
    (parts.flatMap fun part => part ++ [x]) = [x].intercalate parts ++ [x] := by
  induction parts with
  | nil => exact absurd rfl h
  | cons part rest ih =>
    cases rest with
    | nil => simp
    | cons next others =>
      rw [List.flatMap_cons, ih (List.cons_ne_nil next others), List.intercalate_cons_cons,
        List.append_assoc, List.append_assoc, List.append_assoc]

/-- Each line is without line ends. -/
theorem newline_not_mem_of_mem_lines {s l : String} (h : l ∈ lines s) : '\n' ∉ l.toList := by
  obtain ⟨part, hpart, rfl⟩ := List.mem_map.1 h
  rw [String.toList_ofList]
  exact not_mem_of_mem_splitOn hpart

/-- A text is its lines with line ends between them. -/
theorem intercalate_lines (s : String) : "\n".intercalate (lines s) = s := by
  have hparts : (lines s).map String.toList = s.toList.splitOn '\n' := by
    simp [lines, List.map_map, Function.comp_def]
  have hfeed : "\n".toList = ['\n'] := rfl
  rw [← String.toList_inj, String.toList_intercalate, hparts, hfeed, List.intercalate_splitOn]

/-- A text with its last line ended is its lines, each of them ended. -/
theorem join_lines (s : String) : String.join ((lines s).map (· ++ "\n")) = s ++ "\n" := by
  have hfeed : "\n".toList = ['\n'] := rfl
  rw [← String.toList_inj, String.toList_join, String.toList_append, lines, List.map_map,
    List.flatMap_map, hfeed]
  have hended := flatMap_ended (x := '\n') (List.splitOn_ne_nil '\n' s.toList)
  rw [List.intercalate_splitOn] at hended
  simpa [hfeed] using hended

end Text

namespace Writer

variable {w w' : Writer}

/-- A whole line as it is written. An empty line stays empty, but for the mark of a comment. -/
def line (w : Writer) (l : String) : String :=
  (if l = "" then (if w.inDoc then w.indentation ++ "///" else "") else w.lineStart ++ l) ++ "\n"

theorem emit_ended_line {l : String} (hl : '\n' ∉ l.toList) (hstart : w.atLineStart = true) :
    w.emit (l ++ "\n") = { w with output := w.output ++ w.line l } := by
  unfold line
  by_cases hempty : l = ""
  · subst hempty
    cases hdoc : w.inDoc <;> simp [emit, put, hstart, hdoc, ← String.toList_inj]
  · rw [emit_line hl hempty, if_neg hempty, hstart, if_pos rfl]
    simp [← hstart, ← String.toList_inj]

/-- Lines are written one by one, each from the same indentation. -/
theorem emit_ended_lines {ls : List String} (hls : ∀ l ∈ ls, '\n' ∉ l.toList)
    (hstart : w.atLineStart = true) :
    w.emit (String.join (ls.map (· ++ "\n"))) =
      { w with output := w.output ++ String.join (ls.map w.line) } := by
  induction ls generalizing w with
  | nil => simp [emit]
  | cons l ls ih =>
    have hl := hls l List.mem_cons_self
    have hrest := fun m hm => hls m (List.mem_cons_of_mem l hm)
    -- A line changes the output only, so the next one starts from the same indentation.
    have hafter : ({ w with output := w.output ++ w.line l } : Writer).line = w.line := rfl
    rw [List.map_cons, String.join_cons, emit_append, emit_ended_line hl hstart,
      ih (w := { w with output := w.output ++ w.line l }) hrest hstart, hafter, List.map_cons,
      String.join_cons, String.append_assoc]

/-- A text with its last line ended is written line by line. -/
theorem emit_ended_text (s : String) (hstart : w.atLineStart = true) :
    w.emit (s ++ "\n") =
      { w with output := w.output ++ String.join ((Text.lines s).map w.line) } := by
  rw [← Text.join_lines, emit_ended_lines (fun l => Text.newline_not_mem_of_mem_lines) hstart]

/-- Texts that each end a line are written line by line. -/
theorem emit_ended_texts (texts : List String) (hstart : w.atLineStart = true) :
    w.emit (String.join (texts.map (· ++ "\n"))) =
      { w with output := w.output ++ String.join ((texts.flatMap Text.lines).map w.line) } := by
  have hjoin : String.join (texts.map (· ++ "\n")) =
      String.join ((texts.flatMap Text.lines).map (· ++ "\n")) := by
    induction texts with
    | nil => rfl
    | cons s rest ih =>
      rw [List.map_cons, String.join_cons, ih, List.flatMap_cons, List.map_append,
        String.join_append, Text.join_lines]
  rw [hjoin]
  refine emit_ended_lines (fun l hl => ?_) hstart
  obtain ⟨s, -, hline⟩ := List.mem_flatMap.1 hl
  exact Text.newline_not_mem_of_mem_lines hline

/-! ## Texts outside of indentation -/

@[simp] theorem put_level (w : Writer) (c : Char) : (w.put c).level = w.level := by
  unfold put
  split <;> rfl

@[simp] theorem put_unit (w : Writer) (c : Char) : (w.put c).unit = w.unit := by
  unfold put
  split <;> rfl

@[simp] theorem emit_level (w : Writer) (s : String) : (w.emit s).level = w.level := by
  unfold emit
  refine List.foldlRecOn (motive := fun v => v.level = w.level) s.toList put rfl fun v hv c _ => ?_
  rw [put_level, hv]

@[simp] theorem emit_unit (w : Writer) (s : String) : (w.emit s).unit = w.unit := by
  unfold emit
  refine List.foldlRecOn (motive := fun v => v.unit = w.unit) s.toList put rfl fun v hv c _ => ?_
  rw [put_unit, hv]

/-- Outside of indentation and comments a text is written as it is. -/
theorem exists_emit_eq (hlevel : w.level = 0) (hdoc : w.inDoc = false) (s : String) :
    ∃ atLineStart, w.emit s = { w with output := w.output ++ s, atLineStart } := by
  unfold emit
  rw [← String.ofList_toList (s := s)]
  generalize s.toList = cs
  rw [String.toList_ofList]
  -- No character changes the level or the mark of comments, so each is written like the first.
  induction cs generalizing w with
  | nil => exact ⟨w.atLineStart, by simp⟩
  | cons c cs ih =>
    have hnone : w.indentation = "" := by simp [indentation, hlevel, Text.copies, String.join]
    have hput : w.put c =
        { w with output := w.output.push c, atLineStart := decide (c = '\n') } := by
      unfold put
      by_cases hc : c = '\n' <;> simp [hc, hdoc, hnone]
    obtain ⟨atLineStart, hrest⟩ :=
      ih (w := { w with output := w.output.push c, atLineStart := decide (c = '\n') }) hlevel hdoc
    refine ⟨atLineStart, ?_⟩
    rw [List.foldl_cons, hput, hrest]
    simp [← String.toList_inj]

/-- Outside of indentation and comments a text with its last line ended is written as it is. -/
theorem emit_ended_eq (hlevel : w.level = 0) (hdoc : w.inDoc = false) (s : String) :
    w.emit (s ++ "\n") = { w with output := w.output ++ (s ++ "\n"), atLineStart := true } := by
  obtain ⟨atLineStart, hs⟩ := exists_emit_eq hlevel hdoc s
  rw [emit_append, hs]
  simp [emit, put, hdoc, ← String.toList_inj]

/-! ## Layouts that are written to their end -/

/-- The layout is written to its end, within bounds and without, and leaves the second writer. -/
structure Writes (w : Writer) (layout : Layout) (w' : Writer) : Prop where
  write : w.write layout = (w', none)
  bounded : w.writeBounded layout = (w', none)

theorem writes_nil (w : Writer) : w.Writes [] w :=
  ⟨rfl, rfl⟩

/-- A step that writes no text is taken within bounds as it is without. -/
theorem writes_step {step : Step} (hstep : w.step step = .ok w') (htext : ∀ s, step ≠ .text s) :
    w.Writes [step] w' := by
  have hbounded : w.stepBounded step = (w', none) := by
    cases step with
    | text s => exact absurd rfl (htext s)
    | _ => rw [stepBounded, hstep]; simp
  exact ⟨by rw [Writer.write, hstep]; rfl, by rw [writeBounded, hbounded]; rfl⟩

/-- Characters are written within bounds where the indentation is. -/
theorem emitBounded_eq_foldl (h : Text.copiesFault? w.level w.unit = none) (cs : List Char) :
    w.emitBounded cs = (cs.foldl put w, none) := by
  induction cs generalizing w with
  | nil => rfl
  | cons c cs ih =>
    have hfits : (if w.indents c then Text.copiesFault? w.level w.unit else none) = none := by
      rw [h, ite_self]
    rw [emitBounded, hfits]
    exact ih (by rwa [put_level, put_unit])

theorem writes_text (h : Text.copiesFault? w.level w.unit = none) (s : String) :
    w.Writes [.text s] (w.emit s) := by
  refine ⟨rfl, ?_⟩
  rw [writeBounded, stepBounded, emitBounded_eq_foldl h]
  rfl

/-- Outside of indentation and comments, a text with its last line ended. -/
theorem writes_ended (hlevel : w.level = 0) (hdoc : w.inDoc = false) (s : String) :
    w.Writes [.text (s ++ "\n")]
      { w with output := w.output ++ (s ++ "\n"), atLineStart := true } := by
  have hbounds : Text.copiesFault? w.level w.unit = none := by
    rw [hlevel]
    rfl
  rw [← emit_ended_eq hlevel hdoc]
  exact writes_text hbounds _

/-- One layout after another. -/
theorem Writes.append {m : Writer} {a b : Layout} (ha : w.Writes a m) (hb : m.Writes b w') :
    w.Writes (a ++ b) w' := by
  refine ⟨write_append_eq_none_iff.2 ⟨m, ha.write, hb.write⟩, ?_⟩
  obtain ⟨-, hbounded⟩ := ha
  -- The bounded writer stops at a step that does not fit, so the first layout is followed step by
  -- step. The unbounded half is about another run and is dropped before the induction.
  induction a generalizing w with
  | nil =>
    cases hbounded
    exact hb.bounded
  | cons s rest ih =>
    rw [writeBounded] at hbounded
    rw [List.cons_append, writeBounded]
    split at hbounded
    · exact ih hbounded
    · cases hbounded

end Writer

/-! ## Layouts of texts -/

/-- The layout consists of texts, which give the text together. -/
structure Layout.Spells (layout : Layout) (s : String) : Prop where
  onlyTexts : layout.OnlyTexts
  chars : layout.chars = s.toList

namespace Layout

variable {a b : Layout} {s t : String}

theorem spells_nil : Spells [] "" :=
  ⟨onlyTexts_nil, rfl⟩

theorem spells_text (s : String) : Spells [.text s] s :=
  ⟨onlyTexts_text s, by simp [Layout.chars]⟩

theorem Spells.append (ha : Spells a s) (hb : Spells b t) : Spells (a ++ b) (s ++ t) :=
  ⟨ha.onlyTexts.append hb.onlyTexts, by
    rw [chars_append, ha.chars, hb.chars, String.toList_append]⟩

/-- A text before a layout. -/
theorem Spells.cons (hb : Spells b t) (s : String) : Spells (.text s :: b) (s ++ t) :=
  (spells_text s).append hb

/-- A part that can be left out. -/
theorem Spells.optional (ha : Spells a s) (p : Prop) [Decidable p] :
    Spells (if p then a else []) (if p then s else "") := by
  split
  · exact ha
  · exact spells_nil

/-- What is written for each item, one after the other. -/
theorem spells_flatMap {α : Type} {f : α → Layout} {g : α → String} {xs : List α}
    (h : ∀ x ∈ xs, Spells (f x) (g x)) : Spells (xs.flatMap f) (String.join (xs.map g)) := by
  induction xs with
  | nil => exact spells_nil
  | cons x xs ih =>
    rw [List.flatMap_cons, List.map_cons, String.join_cons]
    exact (h x List.mem_cons_self).append (ih fun y hy => h y (List.mem_cons_of_mem x hy))

/-- Texts alone spell their characters. -/
theorem OnlyTexts.spells (h : OnlyTexts a) : Spells a (String.ofList a.chars) :=
  ⟨h, String.toList_ofList.symm⟩

/-- A layout of texts is written as its text. -/
theorem Spells.writes (h : Spells a s) {w : Writer}
    (hbounds : Text.copiesFault? w.level w.unit = none) : w.Writes a (w.emit s) := by
  obtain ⟨honly, hchars⟩ := h
  rw [← String.ofList_toList (s := s), ← hchars]
  clear hchars
  -- A text keeps the level and the unit, and with them the bounds.
  induction a generalizing w with
  | nil => exact Writer.writes_nil w
  | cons step rest ih =>
    obtain ⟨s, rfl⟩ := honly step List.mem_cons_self
    have hrest : OnlyTexts rest := fun step hstep => honly step (List.mem_cons_of_mem _ hstep)
    rw [chars_text, String.ofList_append, Writer.emit_append, String.ofList_toList]
    refine (Writer.writes_text hbounds s).append (ih ?_ hrest)
    rwa [Writer.emit_level, Writer.emit_unit]

/-- Texts that end their line, as a documentation comment. -/
theorem Spells.writes_doc (h : Spells a (s ++ "\n")) {w : Writer}
    (hbounds : Text.copiesFault? w.level w.unit = none) (hstart : w.atLineStart = true)
    (hdoc : w.inDoc = false) :
    w.Writes (.beginDoc :: a ++ [.endDoc])
      { w with output := w.output ++ String.join ((Text.lines s).map w.beginDoc.line) } := by
  have hbegin : w.Writes [.beginDoc] w.beginDoc := Writer.writes_step rfl (by simp)
  have htext := h.writes (w := w.beginDoc) hbounds
  rw [Writer.emit_ended_text (w := w.beginDoc) s hstart] at htext
  refine (hbegin.append htext).append (Writer.writes_step ?_ (by simp))
  simp [Writer.step, Writer.endDoc, Writer.beginDoc, hstart, hdoc]

/-- Texts that end their lines, as a block in braces outside of any indentation. -/
theorem Spells.writes_block {texts : List String}
    (h : Spells a (String.join (texts.map (· ++ "\n")))) {w : Writer} (hlevel : w.level = 0)
    (hdoc : w.inDoc = false) :
    w.Writes ([.text " \x7b\n", .indent] ++ a ++ [.unindent, .text "\x7d\n"])
      { w with
        output := w.output ++ " \x7b\n" ++
          String.join ((texts.flatMap Text.lines).map w.indent.line) ++ "\x7d\n"
        atLineStart := true } := by
  -- The body is one level deep, and that indentation always fits.
  have hbounds : Text.copiesFault? (w.level + 1) w.unit = none := by
    rw [hlevel]
    rfl
  have hopening : " \x7b\n" = " \x7b" ++ "\n" := rfl
  have hclosing : "\x7d\n" = "\x7d" ++ "\n" := rfl
  -- The writer after the opening brace, and after the body.
  let opened : Writer := { w with output := w.output ++ " \x7b\n", atLineStart := true }
  let filled : Writer := { opened.indent with
    output := opened.output ++ String.join ((texts.flatMap Text.lines).map opened.indent.line) }
  have hopen : w.Writes [.text " \x7b\n"] opened := by
    rw [hopening]
    exact Writer.writes_ended hlevel hdoc _
  have hindent : opened.Writes [.indent] opened.indent := Writer.writes_step rfl (by simp)
  have hbody : opened.indent.Writes a filled := by
    have htexts := h.writes (w := opened.indent) hbounds
    rwa [Writer.emit_ended_texts (w := opened.indent) texts rfl] at htexts
  -- Back at level zero the closing brace is not indented.
  have hback : filled.Writes [.unindent] { filled with level := w.level } := by
    refine Writer.writes_step ?_ (by simp)
    simp [Writer.step, Writer.unindent, filled, opened, Writer.indent, hlevel]
  have hclose := Writer.writes_ended (w := { filled with level := w.level }) hlevel hdoc "\x7d"
  have hsteps : [Step.text " \x7b\n", .indent] ++ a ++ [.unindent, .text "\x7d\n"] =
      [.text " \x7b\n"] ++ [.indent] ++ a ++ [.unindent] ++ [.text "\x7d\n"] := by simp
  rw [hsteps, hclosing]
  exact (((hopen.append hindent).append hbody).append hback).append hclose

end Layout

end SwiftDecl
