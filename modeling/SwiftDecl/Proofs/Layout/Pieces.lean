import SwiftDecl.Proofs.Layout.InTurn

/-!
# Texts in pieces

The writer takes a text character by character. It could as well cut the text at its line ends and
write the lines, each in one go after the line end before it (`Writer.emitLines`), and in this form
it is less plain that a text comes out the same when it arrives in pieces: a piece may end in the
middle of a line, right before or after a line end, or between two of them, and what is to be
written before the next character depends on it. Both forms do the same in every state of the writer
(`Writer.emitLines_eq`), so the cuts leave no trace in either (`Writer.emit_pieces`).
-/

namespace SwiftDecl

namespace Writer

/-! ## Line by line -/

/-- Writes a part of a line, after what stands at the start of a line if one starts there. A part
without characters is not written. -/
def extendLine (w : Writer) (s : String) : Writer :=
  if s = "" then w
  else
    { w with
      output := w.output ++ (if w.atLineStart then w.lineStart else "") ++ s
      atLineStart := false }

/-- Ends the line. An empty line of a comment gets the mark first. -/
def endLine (w : Writer) : Writer :=
  { w with
    output := w.output ++
      (if w.inDoc && w.atLineStart then w.indentation ++ "///" else "") ++ "\n"
    atLineStart := true }

/-- Writes a text line by line, and ends the line before each of them but the first. -/
def emitLines (w : Writer) (s : String) : Writer :=
  match Text.lines s with
  | [] => w
  | first :: rest => rest.foldl (fun w l => w.endLine.extendLine l) (w.extendLine first)

theorem extendLine_eq {s : String} (hs : '\n' ∉ s.toList) (w : Writer) :
    w.extendLine s = w.emit s := by
  unfold extendLine
  split
  · next hempty =>
    rw [hempty]
    rfl
  · next hne => rw [emit_word hs hne]

theorem endLine_eq (w : Writer) : w.endLine = w.emit "\n" := by
  have hfeed : w.emit "\n" = w.put '\n' := rfl
  rw [hfeed, put, if_pos rfl, endLine]
  split <;> simp [← String.toList_inj]

/-- Lines with line ends between them are written one after the other. -/
theorem foldl_extendLine_eq {ls : List String} (hls : ∀ l ∈ ls, '\n' ∉ l.toList) (w : Writer) :
    ls.foldl (fun w l => w.endLine.extendLine l) w = w.emit (String.join (ls.map ("\n" ++ ·))) := by
  induction ls generalizing w with
  | nil => rfl
  | cons l ls ih =>
    have hl := hls l List.mem_cons_self
    have hrest := fun m hm => hls m (List.mem_cons_of_mem l hm)
    rw [List.foldl_cons, endLine_eq, extendLine_eq hl, ih hrest, List.map_cons, String.join_cons,
      emit_append, emit_append]

/-- A text is written line by line as it is written character by character. -/
theorem emitLines_eq (w : Writer) (s : String) : w.emitLines s = w.emit s := by
  have hlines := Text.intercalate_lines s
  have hwithin : ∀ l ∈ Text.lines s, '\n' ∉ l.toList :=
    fun _ => Text.newline_not_mem_of_mem_lines
  unfold emitLines
  split
  · next hnone =>
    rw [hnone] at hlines
    rw [← hlines]
    rfl
  · next first rest hsome =>
    rw [hsome] at hlines hwithin
    have hfirst := hwithin first List.mem_cons_self
    have hrest := fun l hl => hwithin l (List.mem_cons_of_mem first hl)
    rw [intercalate_cons_eq] at hlines
    rw [extendLine_eq hfirst, foldl_extendLine_eq hrest, ← emit_append, hlines]

/-! ## Pieces -/

theorem foldl_emit_eq (w : Writer) (pieces : List String) :
    pieces.foldl emit w = w.emit (String.join pieces) := by
  induction pieces generalizing w with
  | nil => rfl
  | cons s rest ih => rw [List.foldl_cons, ih, String.join_cons, emit_append]

end Writer

/-- Pieces of a text are written alike with the text. -/
theorem Layout.alike_pieces (pieces : List String) :
    Layout.Alike (pieces.map .text) [.text (String.join pieces)] := by
  induction pieces with
  | nil => exact alike_text_empty
  | cons s rest ih =>
    rw [List.map_cons, String.join_cons]
    exact ((alike_refl [.text s]).append ih).trans (alike_text_append s _)

/-- In every state, a writer does with the pieces of a text in turn what it does with the text, and
does it as if it wrote the text line by line. A writer that watches the bounds does so, too, up to
the first line that it cannot indent. -/
theorem Writer.emit_pieces (w : Writer) :
    (∀ s t, (w.emit s).emit t = w.emit (s ++ t)) ∧
    (∀ pieces, pieces.foldl emit w = w.emit (String.join pieces)) ∧
    (∀ s, w.emitLines s = w.emit s) ∧
    (∀ s t, (w.emitLines s).emitLines t = w.emitLines (s ++ t)) ∧
    ∀ pieces, w.writeBounded (pieces.map .text) = w.writeBounded [.text (String.join pieces)] := by
  refine ⟨?_, ?_, ?_, ?_, ?_⟩
  · intro s t
    exact (w.emit_append s t).symm
  · exact w.foldl_emit_eq
  · exact w.emitLines_eq
  · intro s t
    rw [emitLines_eq, emitLines_eq, emitLines_eq, emit_append]
  · intro pieces
    exact (Layout.alike_pieces pieces).bounded w

end SwiftDecl
