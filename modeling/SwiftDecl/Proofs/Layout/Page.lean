import SwiftDecl.Writer

/-!
# Pages

A page is what a layout writes apart from the place and the unit of indentation: lines, each with
its text and with its depth below the level at which the page starts. The same steps that lead a
writer on lead a page on (`Page.write`), and the writer shows at every moment the page so far
(`Shows`), each line indented by its depth and the level at the start. What is proved of pages then
holds of texts, whatever the unit and the level.

Whether a layout is written to its end depends on the level alone (`Layout.Fits`), and a layout
that fits a level fits every higher one.
-/

namespace SwiftDecl

/-- A line: its text, and by how many levels it lies below the start of its page. -/
structure Line where
  depth : Int
  text : List Char
deriving DecidableEq, Repr

namespace Line

/-- A line with nothing on it. -/
def blank : Line :=
  ⟨0, []⟩

/-- The line as it is written from a level on: its indentation, if there is anything on it, and its
text. -/
def shown (unit : String) (level : Int) (l : Line) : List Char :=
  if l.text = [] then [] else (Text.copies (level + l.depth) unit).toList ++ l.text

@[simp] theorem blank_text : blank.text = [] := rfl

@[simp] theorem blank_depth : blank.depth = 0 := rfl

@[simp] theorem blank_shown (unit : String) (level : Int) : blank.shown unit level = [] := rfl

/-- A line with something on it is shown with its indentation. -/
theorem shown_of_ne_nil {l : Line} (h : l.text ≠ []) (unit : String) (level : Int) :
    l.shown unit level = (Text.copies (level + l.depth) unit).toList ++ l.text := by
  rw [shown, if_neg h]

end Line

/-- A page that is being written. -/
structure Page where
  /-- The lines that have ended. -/
  done : List Line := []
  /-- The line that has not. -/
  last : Line := .blank
  /-- The level, counted from the start of the page. -/
  depth : Int := 0
  inDoc : Bool := false

namespace Page

/-- All lines of a page. -/
def lines (p : Page) : List Line :=
  p.done ++ [p.last]

/-- Writes one character. In a documentation comment every line starts with three slashes. -/
def put (p : Page) (c : Char) : Page :=
  if c = '\n' then
    { p with
      done := p.done ++ [if p.inDoc ∧ p.last.text = [] then ⟨p.depth, "///".toList⟩ else p.last]
      last := .blank }
  else
    { p with
      last :=
        if p.last.text = [] then ⟨p.depth, (if p.inDoc then "/// ".toList else []) ++ [c]⟩
        else { p.last with text := p.last.text ++ [c] } }

/-- Writes a text. -/
def emit (p : Page) (s : String) : Page :=
  s.toList.foldl put p

end Page

/-- By how much a step raises the level. -/
def Step.rise : Step → Int
  | .indent => 1
  | .unindent => -1
  | _ => 0

namespace Page

/-- Takes one step. The end of a documentation comment ends the line. -/
def step (p : Page) : Step → Page
  | .text s => p.emit s
  | .beginDoc => { p with inDoc := true }
  | .endDoc => { (if p.last.text = [] then p else p.emit "\n") with inDoc := false }
  | s => { p with depth := p.depth + s.rise }

/-- Writes a layout. -/
def write (p : Page) (layout : Layout) : Page :=
  layout.foldl step p

end Page

/-- The page of a layout. -/
def Layout.page (layout : Layout) : Page :=
  ({} : Page).write layout

/-! ## Steps of a page -/

namespace Page

variable {p : Page}

@[simp] theorem write_nil (p : Page) : p.write [] = p := rfl

@[simp] theorem write_cons (p : Page) (s : Step) (rest : Layout) :
    p.write (s :: rest) = (p.step s).write rest := rfl

@[simp] theorem write_append (p : Page) (a b : Layout) : p.write (a ++ b) = (p.write a).write b :=
  List.foldl_append

@[simp] theorem put_depth (p : Page) (c : Char) : (p.put c).depth = p.depth := by
  unfold put
  split <;> rfl

@[simp] theorem put_inDoc (p : Page) (c : Char) : (p.put c).inDoc = p.inDoc := by
  unfold put
  split <;> rfl

/-- What holds of a page and is kept by every character is kept by a text. -/
theorem emit_induction {P : Page → Prop} (hput : ∀ p c, P p → P (p.put c)) (s : String) (h : P p) :
    P (p.emit s) := by
  unfold emit
  induction s.toList generalizing p with
  | nil => exact h
  | cons c cs ih => exact ih (hput p c h)

/-- Two texts in turn are one text. -/
theorem emit_append (p : Page) (s t : String) : p.emit (s ++ t) = (p.emit s).emit t := by
  unfold emit
  rw [String.toList_append, List.foldl_append]

@[simp] theorem emit_depth (p : Page) (s : String) : (p.emit s).depth = p.depth :=
  emit_induction (P := fun q => q.depth = p.depth) (fun q c h => by rw [put_depth, h]) s rfl

/-- A text changes neither the level nor the mode. -/
@[simp] theorem emit_inDoc (p : Page) (s : String) : (p.emit s).inDoc = p.inDoc :=
  emit_induction (P := fun q => q.inDoc = p.inDoc) (fun q c h => by rw [put_inDoc, h]) s rfl

/-- A step raises the level of the page as it says. -/
theorem step_depth (p : Page) (s : Step) : (p.step s).depth = p.depth + s.rise := by
  cases s with
  | text s => simp [step, Step.rise]
  | beginDoc => simp [step, Step.rise]
  | endDoc =>
    simp only [step, Step.rise]
    split <;> simp
  | _ => rfl

/-- The line that a line feed leaves behind. -/
theorem put_newline (p : Page) :
    p.put '\n' =
      { p with
        done := p.done ++
          [if p.inDoc ∧ p.last.text = [] then ⟨p.depth, "///".toList⟩ else p.last]
        last := .blank } := by
  rw [put, if_pos rfl]

theorem emit_newline (p : Page) : p.emit "\n" = p.put '\n' := rfl

end Page

/-! ## Levels -/

/-- The step can be taken at the level. -/
def Step.Fits (level : Int) : Step → Prop
  | .unindent => 0 ≤ level - 1
  | .fail _ => False
  | _ => True

/-- By how much a layout raises the level. -/
def Layout.rise : Layout → Int
  | [] => 0
  | s :: rest => s.rise + Layout.rise rest

/-- The layout can be written to its end from the level on. -/
def Layout.Fits : (level : Int) → Layout → Prop
  | _, [] => True
  | level, s :: rest => s.Fits level ∧ Layout.Fits (level + s.rise) rest

/-- A step that fits a level fits every higher one. -/
theorem Step.Fits.above {s : Step} {level above : Int} (h : s.Fits level) (hle : level ≤ above) :
    s.Fits above := by
  cases s with
  | unindent =>
    have hlevel : 0 ≤ level - 1 := h
    show 0 ≤ above - 1
    omega
  | fail fault => exact h.elim
  | _ => trivial

namespace Layout

variable {level : Int}

/-- One layout after another fits if the first does, and the second at the level that it leaves. -/
theorem fits_append {a b : Layout} :
    Layout.Fits level (a ++ b) ↔ Layout.Fits level a ∧ Layout.Fits (level + Layout.rise a) b := by
  induction a generalizing level with
  | nil => simp [Layout.Fits, Layout.rise]
  | cons s rest ih =>
    rw [List.cons_append, Layout.Fits, Layout.Fits, ih, and_assoc, Layout.rise, Int.add_assoc]

/-- A layout that fits a level fits every higher one. -/
theorem fits_above {layout : Layout} {above : Int} (h : Layout.Fits level layout)
    (hle : level ≤ above) : Layout.Fits above layout := by
  induction layout generalizing level above with
  | nil => trivial
  | cons s rest ih => exact ⟨h.1.above hle, ih h.2 (by omega)⟩

end Layout

/-- A layout raises the level of a page as it says. -/
theorem Page.write_depth (p : Page) (layout : Layout) :
    (p.write layout).depth = p.depth + Layout.rise layout := by
  induction layout generalizing p with
  | nil => simp [Layout.rise]
  | cons s rest ih => rw [Page.write_cons, ih, Page.step_depth, Layout.rise, Int.add_assoc]

/-! ## A writer and its page -/

/-- The page as it is written from a level on. -/
def Page.shown (unit : String) (level : Int) (p : Page) : List Char :=
  (p.done.flatMap fun l => l.shown unit level ++ ['\n']) ++ p.last.shown unit level

/-- The lines of a page stand with line ends between them. -/
theorem Page.shown_eq_intercalate (unit : String) (level : Int) (p : Page) :
    p.shown unit level = ['\n'].intercalate (p.lines.map (Line.shown unit level)) := by
  unfold Page.shown Page.lines
  induction p.done with
  | nil => simp
  | cons l rest ih =>
    rw [List.flatMap_cons, List.append_assoc, ih, List.cons_append, List.map_cons]
    cases hrest : (rest ++ [p.last]).map (Line.shown unit level) with
    | nil => simp at hrest
    | cons m ms => rw [List.intercalate_cons_cons]

/-- The writer has come from the start by writing the page. -/
structure Page.Shows (start : Writer) (p : Page) (w : Writer) : Prop where
  unit : w.unit = start.unit
  level : w.level = start.level + p.depth
  output : w.output.toList = start.output.toList ++ p.shown start.unit start.level
  atLineStart : w.atLineStart = true ↔ p.last.text = []
  inDoc : w.inDoc = p.inDoc

namespace Page

variable {start w w' : Writer} {p : Page}

/-- A writer at the start of a line has an empty page before it. -/
theorem shows_start (hstart : start.atLineStart = true) :
    Page.Shows start { inDoc := start.inDoc } start where
  unit := rfl
  level := (Int.add_zero _).symm
  output := by simp [Page.shown]
  atLineStart := by simp [hstart]
  inDoc := rfl

/-- Outside of documentation the page before the writer is the one that layouts start with. -/
theorem shows_empty (hstart : start.atLineStart = true) (hdoc : start.inDoc = false) :
    Page.Shows start {} start := by
  have h := shows_start hstart
  rwa [hdoc] at h

/-- The indentation that the writer gives to a line is that of the depth of the page. -/
theorem Shows.indentation (h : p.Shows start w) :
    w.indentation = Text.copies (start.level + p.depth) start.unit := by
  rw [Writer.indentation, h.level, h.unit]

/-- A character is written to the page and by the writer alike. -/
theorem Shows.put (h : p.Shows start w) (c : Char) : (p.put c).Shows start (w.put c) := by
  have hindent := h.indentation
  have hstart : w.atLineStart = decide (p.last.text = []) := by
    rw [Bool.eq_iff_iff, h.atLineStart, decide_eq_true_eq]
  unfold Page.put Writer.put
  by_cases hc : c = '\n'
  · subst hc
    simp only [↓reduceIte]
    refine ⟨h.unit, h.level, ?_, by simp, h.inDoc⟩
    cases hdoc : p.inDoc <;> by_cases hempty : p.last.text = []
    all_goals simp [h.inDoc, hstart, hdoc, hempty, h.output, hindent, Page.shown, Line.shown]
  · simp only [hc, ↓reduceIte]
    refine ⟨h.unit, h.level, ?_, ?_, h.inDoc⟩
    · cases hdoc : p.inDoc <;> by_cases hempty : p.last.text = []
      all_goals simp [h.inDoc, hstart, hdoc, hempty, h.output, hindent, Page.shown, Line.shown]
    · by_cases hempty : p.last.text = [] <;> simp [hempty]

/-- A text is written to the page and by the writer alike. -/
theorem Shows.emit (h : p.Shows start w) (s : String) : (p.emit s).Shows start (w.emit s) := by
  unfold Page.emit Writer.emit
  induction s.toList generalizing p w with
  | nil => exact h
  | cons c cs ih => exact ih (h.put c)

/-- A step that the writer takes is one of the page. -/
theorem Shows.step {s : Step} (h : p.Shows start w) (hs : w.step s = .ok w') :
    (p.step s).Shows start w' := by
  cases s with
  | text s =>
    cases hs
    exact h.emit s
  | indent =>
    cases hs
    exact { h with level := by simp [Writer.indent, Page.step, Step.rise, h.level, Int.add_assoc] }
  | unindent =>
    simp only [Writer.step, Writer.unindent] at hs
    split at hs
    · -- back from level zero: the step fails
      cases hs
    · cases hs
      exact { h with level := by simp [Page.step, Step.rise, h.level]; omega }
  | beginDoc =>
    cases hs
    exact { h with inDoc := rfl }
  | endDoc =>
    cases hs
    unfold Page.step Writer.endDoc
    by_cases hempty : p.last.text = []
    · -- the last line is empty, and stays
      rw [if_pos (h.atLineStart.2 hempty), if_pos hempty]
      exact { h with inDoc := rfl }
    · -- in the middle of a line, which is ended first
      have hmiddle : w.atLineStart = false := by
        rw [← Bool.not_eq_true, h.atLineStart]
        exact hempty
      simp only [hmiddle, hempty, Bool.false_eq_true, ↓reduceIte]
      exact { h.emit "\n" with inDoc := rfl }
  | fail fault => cases hs

end Page

namespace Writer

variable {w w' : Writer}

/-- A step is taken exactly if it fits the level. -/
theorem step_eq_ok_iff {s : Step} : (∃ w', w.step s = .ok w') ↔ s.Fits w.level := by
  cases s with
  | unindent =>
    simp only [step, unindent, Step.Fits]
    split
    · next hlow => simp only [reduceCtorEq, exists_false, false_iff]; omega
    · next hhigh => simp only [Except.ok.injEq, exists_eq', true_iff]; omega
  | fail fault => simp [step, Step.Fits]
  | _ => simp [step, Step.Fits]

/-- A step raises the level as it says. -/
theorem step_level {s : Step} (h : w.step s = .ok w') : w'.level = w.level + s.rise := by
  -- No character changes the level.
  have hemit : ∀ (w : Writer) (s : String), (w.emit s).level = w.level := by
    intro w s
    unfold emit
    induction s.toList generalizing w with
    | nil => rfl
    | cons c cs ih =>
      rw [List.foldl_cons, ih]
      unfold put
      split <;> rfl
  cases s with
  | text s =>
    cases h
    simp [Step.rise, hemit]
  | unindent =>
    simp only [step, unindent] at h
    split at h
    · cases h
    · cases h
      rfl
  | endDoc =>
    cases h
    unfold endDoc
    split <;> simp [Step.rise, hemit]
  | fail fault => cases h
  | _ =>
    cases h
    simp [Step.rise, indent, beginDoc]

/-- A layout is written to its end exactly if it fits the level. -/
theorem write_eq_none_iff {layout : Layout} :
    (∃ w', w.write layout = (w', none)) ↔ Layout.Fits w.level layout := by
  induction layout generalizing w with
  | nil => simp [write, Layout.Fits]
  | cons s rest ih =>
    rw [Layout.Fits, ← step_eq_ok_iff, write]
    cases hs : w.step s with
    | ok next => simp [ih, step_level hs]
    | error fault => simp

end Writer

/-- A layout that is written to its end leaves the page that it makes of the page so far. -/
theorem Page.Shows.write {start w w' : Writer} {p : Page} {layout : Layout}
    (h : p.Shows start w) (hw : w.write layout = (w', none)) : (p.write layout).Shows start w' := by
  induction layout generalizing p w with
  | nil =>
    cases hw
    exact h
  | cons s rest ih =>
    rw [Writer.write] at hw
    cases hs : w.step s with
    | ok next =>
      rw [hs] at hw
      exact ih (h.step hs) hw
    | error fault =>
      rw [hs] at hw
      cases hw

end SwiftDecl
