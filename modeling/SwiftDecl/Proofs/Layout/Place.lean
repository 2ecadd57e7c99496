import SwiftDecl.Declaration.Layout
import SwiftDecl.Proofs.Layout.Page
import SwiftDecl.Writer.Bounded

/-!
# Layouts and the place where they are written

A layout that can be written in a new writer is written alike everywhere: at every level, with every
unit of indentation, and after any text, as long as a line starts there. The page of the layout is
what it has in common with itself at all these places. A writer that watches the bounds goes along
as long as the indentation of every line of the page can be made.
-/

namespace SwiftDecl

/-! ## Pages whose lines can be indented -/

namespace Page

variable {unit : String} {level : Int} {p : Page}

/-- Each line with something on it can be indented. -/
def Indentable (unit : String) (level : Int) (p : Page) : Prop :=
  ∀ l ∈ p.lines, l.text ≠ [] → Text.copiesFault? (level + l.depth) unit = none

/-- A line that has been started stays on the page, with its depth. -/
theorem exists_line_of_put {l : Line} (hl : l ∈ p.lines) (htext : l.text ≠ []) (c : Char) :
    ∃ m ∈ (p.put c).lines, m.text ≠ [] ∧ m.depth = l.depth := by
  rw [lines, List.mem_append, List.mem_singleton] at hl
  unfold put lines
  rcases hl with hdone | rfl
  · exact ⟨l, by split <;> simp [hdone], htext, rfl⟩
  · by_cases hc : c = '\n'
    · exact ⟨p.last, by simp [hc, htext], htext, rfl⟩
    · exact ⟨{ p.last with text := p.last.text ++ [c] }, by simp [hc, htext], by simp, rfl⟩

/-- A character that is written after an indentation starts a line at the depth of the page. -/
theorem exists_line_of_indented {c : Char} (hstart : p.last.text = [])
    (hc : c ≠ '\n' ∨ p.inDoc = true) : ∃ m ∈ (p.put c).lines, m.text ≠ [] ∧ m.depth = p.depth := by
  unfold put lines
  by_cases hfeed : c = '\n'
  · have hdoc : p.inDoc = true := by simpa [hfeed] using hc
    exact ⟨⟨p.depth, "///".toList⟩, by simp [hfeed, hstart, hdoc], by simp, rfl⟩
  · exact ⟨⟨p.depth, (if p.inDoc then "/// ".toList else []) ++ [c]⟩, by simp [hfeed, hstart],
      by simp, rfl⟩

/-- If the lines after a character can be indented, so can the lines before it. -/
theorem Indentable.of_put {c : Char} (h : (p.put c).Indentable unit level) :
    p.Indentable unit level := by
  intro l hl htext
  obtain ⟨m, hm, hmtext, hdepth⟩ := exists_line_of_put hl htext c
  rw [← hdepth]
  exact h m hm hmtext

/-- If the lines after a character can be indented, so can the line that it starts. -/
theorem Indentable.of_indented {c : Char} (h : (p.put c).Indentable unit level)
    (hstart : p.last.text = []) (hc : c ≠ '\n' ∨ p.inDoc = true) :
    Text.copiesFault? (level + p.depth) unit = none := by
  obtain ⟨m, hm, hmtext, hdepth⟩ := exists_line_of_indented hstart hc
  rw [← hdepth]
  exact h m hm hmtext

/-- If the lines after characters can be indented, so can the lines before them. -/
theorem Indentable.of_foldl {cs : List Char} (h : (cs.foldl put p).Indentable unit level) :
    p.Indentable unit level := by
  induction cs generalizing p with
  | nil => exact h
  | cons c cs ih => exact (ih h).of_put

/-- If the lines after a step can be indented, so can the lines before it. -/
theorem Indentable.of_step {s : Step} (h : (p.step s).Indentable unit level) :
    p.Indentable unit level := by
  cases s with
  | text s => exact h.of_foldl
  | endDoc =>
    unfold step at h
    by_cases hempty : p.last.text = []
    · rw [if_pos hempty] at h
      exact h
    · rw [if_neg hempty] at h
      have hline : (p.emit "\n").Indentable unit level := h
      exact hline.of_foldl
  | _ => exact h

/-- If the lines after a layout can be indented, so can the lines before it. -/
theorem Indentable.of_write {layout : Layout} (h : (p.write layout).Indentable unit level) :
    p.Indentable unit level := by
  induction layout generalizing p with
  | nil => exact h
  | cons s rest ih => exact (ih h).of_step

end Page

/-! ## Writing within bounds -/

section Bounded

variable {start w w' : Writer} {p : Page}

/-- Characters are written within bounds if the lines after them can be indented. -/
theorem emitBounded_eq {cs : List Char} (h : p.Shows start w)
    (hlines : (cs.foldl Page.put p).Indentable start.unit start.level) :
    w.emitBounded cs = (cs.foldl Writer.put w, none) := by
  induction cs generalizing p w with
  | nil => rfl
  | cons c cs ih =>
    have hrest := ih (h.put c) hlines
    have hput : (p.put c).Indentable start.unit start.level := by
      apply Page.Indentable.of_foldl
      exact hlines
    have hfits : (if w.indents c then Text.copiesFault? w.level w.unit else none) = none := by
      split
      · next hindents =>
        simp only [Writer.indents, Bool.and_eq_true, Bool.or_eq_true, bne_iff_ne, h.inDoc]
          at hindents
        rw [h.level, h.unit]
        exact hput.of_indented (h.atLineStart.1 hindents.1) hindents.2
      · rfl
    rw [Writer.emitBounded, hfits]
    exact hrest

/-- A step is taken within bounds as it is taken without, if the lines after it can be indented. -/
theorem stepBounded_eq {s : Step} (h : p.Shows start w) (hs : w.step s = .ok w')
    (hlines : (p.step s).Indentable start.unit start.level) : w.stepBounded s = (w', none) := by
  cases s with
  | text s =>
    cases hs
    rw [Writer.stepBounded, emitBounded_eq h hlines]
    rfl
  | _ => rw [Writer.stepBounded, hs]; simp

/-- A layout is written within bounds as it is written without, if the lines after it can be
indented. -/
theorem writeBounded_eq {layout : Layout} (h : p.Shows start w)
    (hw : w.write layout = (w', none))
    (hlines : (p.write layout).Indentable start.unit start.level) :
    w.writeBounded layout = (w', none) := by
  induction layout generalizing p w with
  | nil =>
    cases hw
    rfl
  | cons s rest ih =>
    rw [Writer.write] at hw
    cases hs : w.step s with
    | ok next =>
      rw [hs] at hw
      -- The lines after this step are among those at the end.
      have hfirst : (p.step s).Indentable start.unit start.level := by
        apply Page.Indentable.of_write
        exact hlines
      have hstep : w.stepBounded s = (next, none) := stepBounded_eq h hs hfirst
      rw [Writer.writeBounded, hstep]
      exact ih (h.step hs) hw hlines
    | error fault =>
      rw [hs] at hw
      cases hw

end Bounded

/-! ## Lines without a place -/

/-- Wherever a line starts, outside of documentation and at a level that is not below zero, the
layout is written to its end: as the lines, each indented by its depth below the level there, and
with the level changed by the offset. Within bounds the same is written if each indentation can be
made. -/
def Layout.WrittenAs (layout : Layout) (lines : List Line) (offset : Int) : Prop :=
  ∀ w : Writer, w.atLineStart = true → w.inDoc = false → 0 ≤ w.level →
    ∃ w', w.write layout = (w', none) ∧
      w'.output =
        w.output ++ String.ofList (['\n'].intercalate (lines.map (Line.shown w.unit w.level))) ∧
      w'.level = w.level + offset ∧
      ((∀ l ∈ lines, l.text ≠ [] → Text.copiesFault? (w.level + l.depth) w.unit = none) →
        w.writeBounded layout = (w', none))

/-- Lines as a text has them: none lies above the start of the page, and none has a line end in
it. -/
def Layout.AreLines (lines : List Line) : Prop :=
  ∀ l ∈ lines, 0 ≤ l.depth ∧ '\n' ∉ l.text

/-- Lines as a text has them that is written from the level on: none has a line end in it, and none
lies above level zero if the level does not. -/
def Layout.AreLinesFrom (level : Int) (lines : List Line) : Prop :=
  ∀ l ∈ lines, (0 ≤ level → 0 ≤ level + l.depth) ∧ '\n' ∉ l.text

namespace Layout

/-- A layout that fits is written as the lines of its page. -/
theorem writtenAs_page {layout : Layout} (h : Layout.Fits 0 layout) :
    Layout.WrittenAs layout (Layout.page layout).lines (Layout.rise layout) := by
  intro w hstart hdoc hlevel
  obtain ⟨w', hw⟩ := Writer.write_eq_none_iff.2 (Layout.fits_above h hlevel)
  have hempty := Page.shows_empty hstart hdoc
  have hshows := hempty.write hw
  refine ⟨w', hw, ?_, ?_, fun hlines => writeBounded_eq hempty hw hlines⟩
  · rw [← String.toList_inj, String.toList_append, String.toList_ofList,
      ← Page.shown_eq_intercalate]
    exact hshows.output
  · rw [hshows.level, Page.write_depth]
    simp

/-- A character leaves lines as a text has them, if it is not written above level zero. -/
theorem areLinesFrom_put {level : Int} {p : Page} (h : AreLinesFrom level p.lines)
    (hdepth : 0 ≤ level → 0 ≤ level + p.depth) (c : Char) :
    AreLinesFrom level (p.put c).lines := by
  intro l hl
  rw [Page.lines, List.mem_append, List.mem_singleton] at hl
  have hdone : ∀ m ∈ p.done, (0 ≤ level → 0 ≤ level + m.depth) ∧ '\n' ∉ m.text :=
    fun m hm => h m (List.mem_append_left _ hm)
  have hlast : (0 ≤ level → 0 ≤ level + p.last.depth) ∧ '\n' ∉ p.last.text :=
    h p.last (by simp [Page.lines])
  unfold Page.put at hl
  by_cases hc : c = '\n'
  · simp only [hc, ↓reduceIte, List.mem_append, List.mem_singleton] at hl
    -- a line end: the lines before, the one that is ended, and the new one
    rcases hl with (hold | rfl) | rfl
    · exact hdone l hold
    · split
      · exact ⟨hdepth, by simp⟩
      · exact hlast
    · exact ⟨by simp, by simp⟩
  · simp only [hc, ↓reduceIte] at hl
    -- any other character: only the last line changes
    rcases hl with hold | rfl
    · exact hdone l hold
    · have hne : ¬ '\n' = c := fun hsame => hc hsame.symm
      split
      · refine ⟨hdepth, ?_⟩
        split <;> simp [hne]
      · exact ⟨hlast.1, by simp [hlast.2, hne]⟩

/-- A text leaves lines as a text has them, if it is not written above level zero. -/
theorem areLinesFrom_emit {level : Int} {p : Page} (h : AreLinesFrom level p.lines)
    (hdepth : 0 ≤ level → 0 ≤ level + p.depth) (s : String) :
    AreLinesFrom level (p.emit s).lines := by
  have hboth : AreLinesFrom level (p.emit s).lines ∧
      (0 ≤ level → 0 ≤ level + (p.emit s).depth) :=
    Page.emit_induction
      (P := fun q => AreLinesFrom level q.lines ∧ (0 ≤ level → 0 ≤ level + q.depth))
      (fun q c hq => ⟨areLinesFrom_put hq.1 hq.2 c, by simpa using hq.2⟩) s ⟨h, hdepth⟩
  exact hboth.1

/-- The page of a layout that fits has lines as a text has them. -/
theorem areLinesFrom_write {level : Int} {layout : Layout} {p : Page}
    (h : AreLinesFrom level p.lines) (hdepth : 0 ≤ level → 0 ≤ level + p.depth)
    (hfits : Layout.Fits (level + p.depth) layout) : AreLinesFrom level (p.write layout).lines := by
  induction layout generalizing p with
  | nil => exact h
  | cons s rest ih =>
    obtain ⟨hs, hrest⟩ := hfits
    -- That the layout fits is needed for the way back alone.
    have hnext : 0 ≤ level → 0 ≤ level + (p.step s).depth := by
      intro hlevel
      have hhere := hdepth hlevel
      rw [Page.step_depth]
      cases s with
      | unindent =>
        have hlow : 0 ≤ level + p.depth - 1 := hs
        simp only [Step.rise]
        omega
      | indent =>
        simp only [Step.rise]
        omega
      | _ => simpa [Step.rise] using hhere
    -- Only text, and a line that documentation ends on, add characters.
    have hlines : AreLinesFrom level (p.step s).lines := by
      cases s with
      | text s => exact areLinesFrom_emit h hdepth s
      | endDoc =>
        unfold Page.step
        by_cases hempty : p.last.text = []
        · rw [if_pos hempty]
          exact h
        · rw [if_neg hempty]
          exact areLinesFrom_emit h hdepth "\n"
      | _ => exact h
    refine ih hlines hnext ?_
    rw [Page.step_depth, ← Int.add_assoc]
    exact hrest

/-- An empty page has lines as a text has them. -/
theorem areLinesFrom_empty (level : Int) (inDoc : Bool) :
    AreLinesFrom level ({ inDoc } : Page).lines := by
  intro l hl
  have hl' : l = Line.blank := by simpa [Page.lines] using hl
  rw [hl']
  exact ⟨by simp, by simp⟩

/-- A layout that can be written in a new writer is written alike everywhere. -/
theorem exists_writtenAs {layout : Layout} {s : String} (h : Layout.text layout = .ok s) :
    ∃ lines offset, AreLines lines ∧ Layout.WrittenAs layout lines offset := by
  have hfits : Layout.Fits 0 layout := by
    have hwritten : ∃ w', ({} : Writer).write layout = (w', none) := by
      unfold Layout.text at h
      split at h
      · next w' hw => exact ⟨w', hw⟩
      · cases h
    exact Writer.write_eq_none_iff.1 hwritten
  have hlines : AreLinesFrom 0 (Layout.page layout).lines :=
    areLinesFrom_write (areLinesFrom_empty 0 false) (by simp) hfits
  have htop : AreLines (Layout.page layout).lines := by
    intro l hl
    simpa using hlines l hl
  exact ⟨_, _, htop, writtenAs_page hfits⟩

/-- Blocks of code, functions and types that can be written in a new writer are written alike
everywhere, functions and types with any modifiers implied, and functions concisely or not: there
is one list of lines, and one change of the level, for all units, levels and texts before. -/
theorem written_alike_everywhere :
    (∀ (c : Code) (s : String), c.text = .ok s →
      ∃ lines offset, AreLines lines ∧ Layout.WrittenAs c.layout lines offset) ∧
    (∀ (f : FunctionDecl) (implied : ModifierSet) (concise : Bool) (s : String),
      Layout.text (f.layout implied concise) = .ok s →
        ∃ lines offset, AreLines lines ∧
          Layout.WrittenAs (f.layout implied concise) lines offset) ∧
    (∀ (t : TypeDecl) (implied : ModifierSet) (s : String),
      Layout.text (t.layout implied) = .ok s →
        ∃ lines offset, AreLines lines ∧ Layout.WrittenAs (t.layout implied) lines offset) :=
  ⟨fun _ _ h => exists_writtenAs h, fun _ _ _ _ h => exists_writtenAs h,
    fun _ _ _ h => exists_writtenAs h⟩

/-- A loop that is left open, a documented function with the loop closed in its body, and a class
with a function that has no body. -/
theorem loop_written_alike_everywhere :
    let c : Code := {
      parts := [.text "while ", .slot .name, .text " \x7b\n", .directive .indent,
        .text "step()\n\n"]
      arguments := [.text "running"] }
    let f : FunctionDecl := {
      name := "run"
      doc := { parts := [.text "Runs.\n\nSlowly."] }
      signature := {}
      body := some (c ++ { parts := [.directive .unindent, .text "\x7d\n"] }) }
    let t : TypeDecl := {
      kind := .classType, name := "Engine", doc := {}
      functions := [{ name := "stop", doc := {}, signature := {}, body := none }] }
    (∃ lines offset, AreLines lines ∧ Layout.WrittenAs c.layout lines offset) ∧
      (∃ lines offset, AreLines lines ∧ Layout.WrittenAs (f.layout {} true) lines offset) ∧
      ∃ lines offset, AreLines lines ∧ Layout.WrittenAs (t.layout {}) lines offset := by
  intro c f t
  obtain ⟨hcode, hfunction, htype⟩ := written_alike_everywhere
  refine ⟨?_, ?_, ?_⟩
  · exact hcode c "while running \x7b\n  step()\n\n" rfl
  · exact hfunction f {} true
      ("/// Runs.\n///\n/// Slowly.\n" ++
        "func run() \x7b\n  while running \x7b\n    step()\n\n  \x7d\n\x7d\n") rfl
  · exact htype t {} "class Engine \x7b\n  func stop()\n\x7d\n" rfl

end Layout

end SwiftDecl
