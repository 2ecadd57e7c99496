import SwiftDecl.Proofs.Layout.Place
import SwiftDecl.Text.Blank

/-!
# Braces and indentation

The lines of a page are indented by braces if each of them lies as deep as there are braces open
before it, and one level less if it starts with a closing brace (`Line.AllIndented`). A page stands
at a depth if its lines are indented by braces and both its level and its open braces are at that
depth (`Page.Stands`). Every character that is no brace keeps a page standing.

The text of a page that stands at depth zero is indented by braces, and its braces are balanced
(`Page.Stands.text_indented`).
-/

namespace SwiftDecl

/-! ## Braces of texts -/

namespace Text

/-- How many braces are opened, less those that are closed. -/
def braceDepth (cs : List Char) : Int :=
  cs.count '\x7b' - cs.count '\x7d'

/-- No closing brace of the text comes before its opening one, if so many are open before the
text. -/
def Covered (opened : Int) (cs : List Char) : Prop :=
  ∀ front, front <+: cs → 0 ≤ opened + braceDepth front

/-- The text has no braces. -/
def Unbraced (cs : List Char) : Prop :=
  '\x7b' ∉ cs ∧ '\x7d' ∉ cs

instance (cs : List Char) : Decidable (Unbraced cs) :=
  inferInstanceAs (Decidable (_ ∧ _))

@[simp] theorem braceDepth_nil : braceDepth [] = 0 := rfl

@[simp] theorem braceDepth_append (cs ds : List Char) :
    braceDepth (cs ++ ds) = braceDepth cs + braceDepth ds := by
  simp only [braceDepth, List.count_append]
  omega

theorem Unbraced.braceDepth {cs : List Char} (h : Unbraced cs) : Text.braceDepth cs = 0 := by
  rw [Text.braceDepth, List.count_eq_zero.2 h.1, List.count_eq_zero.2 h.2]
  rfl

theorem unbraced_append {cs ds : List Char} :
    Unbraced (cs ++ ds) ↔ Unbraced cs ∧ Unbraced ds := by
  simp only [Unbraced, List.mem_append, not_or]
  constructor
  · rintro ⟨⟨hopens, hopened⟩, hcloses, hclosed⟩
    exact ⟨⟨hopens, hcloses⟩, hopened, hclosed⟩
  · rintro ⟨⟨hopens, hcloses⟩, hopened, hclosed⟩
    exact ⟨⟨hopens, hopened⟩, hcloses, hclosed⟩

theorem unbraced_cons {c : Char} {cs : List Char} :
    Unbraced (c :: cs) ↔ Unbraced [c] ∧ Unbraced cs := by
  rw [← List.singleton_append, unbraced_append]

variable {opened : Int} {cs ds : List Char}

theorem covered_nil : Covered opened [] ↔ 0 ≤ opened := by
  simp [Covered]

/-- What is open after a covered text is not less than nothing. -/
theorem Covered.nonneg (h : Covered opened cs) : 0 ≤ opened + braceDepth cs :=
  h cs List.prefix_rfl

/-- A text is covered if its first part is, and its second one by what is open then. -/
theorem covered_append :
    Covered opened (cs ++ ds) ↔ Covered opened cs ∧ Covered (opened + braceDepth cs) ds := by
  constructor
  · intro h
    refine ⟨fun front hfront => h front (hfront.trans (List.prefix_append cs ds)), ?_⟩
    intro front hfront
    have hboth := h (cs ++ front) ((List.prefix_append_right_inj cs).2 hfront)
    rw [braceDepth_append] at hboth
    omega
  · rintro ⟨hfirst, hsecond⟩ front hfront
    rcases List.prefix_or_prefix_of_prefix hfront (List.prefix_append cs ds) with hin | ⟨rest, rfl⟩
    · exact hfirst front hin
    · have hrest := hsecond rest ((List.prefix_append_right_inj cs).1 hfront)
      rw [braceDepth_append]
      omega

/-- Without braces nothing is closed. -/
theorem Unbraced.covered (h : Unbraced cs) (hopened : 0 ≤ opened) : Covered opened cs := by
  intro front hfront
  have hfree : Unbraced front :=
    ⟨fun hmem => h.1 (hfront.subset hmem), fun hmem => h.2 (hfront.subset hmem)⟩
  rw [hfree.braceDepth]
  omega

theorem covered_singleton {c : Char} :
    Covered opened [c] ↔ 0 ≤ opened ∧ 0 ≤ opened + braceDepth [c] := by
  constructor
  · intro h
    exact ⟨by simpa using h [] List.nil_prefix, h.nonneg⟩
  · rintro ⟨hbefore, hafter⟩ front hfront
    rcases List.prefix_cons_iff.1 hfront with rfl | ⟨rest, rfl, hrest⟩
    · simpa using hbefore
    · rw [List.prefix_nil.1 hrest]
      exact hafter

end Text

open Text

/-! ## Lines -/

/-- The texts of lines, without line ends. -/
def Line.texts (lines : List Line) : List Char :=
  lines.flatMap Line.text

/-- The line lies as deep as there are braces open before it, and a closing brace at its start is
counted already. It does not start with white space. -/
structure Line.Indented (opened : Int) (l : Line) : Prop where
  covered : Covered opened l.text
  first : ∀ c cs, l.text = c :: cs →
    isBlank c = false ∧ l.depth = opened - (if c = '\x7d' then 1 else 0)

/-- Each line is indented by the braces before it. -/
def Line.AllIndented (lines : List Line) : Prop :=
  ∀ before l after, lines = before ++ l :: after → l.Indented (braceDepth (Line.texts before))

namespace Line

@[simp] theorem texts_nil : texts [] = [] := rfl

@[simp] theorem texts_append (ls ms : List Line) : texts (ls ++ ms) = texts ls ++ texts ms :=
  List.flatMap_append

@[simp] theorem texts_singleton (l : Line) : texts [l] = l.text := by
  simp [texts]

/-- An empty line is indented wherever it stands. -/
theorem indented_of_empty {opened : Int} {l : Line} (h : l.text = []) (hopened : 0 ≤ opened) :
    l.Indented opened where
  covered := by
    rw [h]
    exact covered_nil.2 hopened
  first := by
    intro c cs hcs
    rw [h] at hcs
    cases hcs

/-- A line of documentation is indented if it is at the depth of the braces and has none itself. -/
theorem indented_doc {opened depth : Int} {cs : List Char} (hdepth : depth = opened)
    (hopened : 0 ≤ opened) (hcs : Unbraced cs) :
    Line.Indented opened ⟨depth, '/' :: cs⟩ where
  covered := (unbraced_cons.2 ⟨by decide, hcs⟩).covered hopened
  first := by
    rintro c rest hrest
    cases hrest
    exact ⟨by decide, by simp [hdepth]⟩

/-- One more line is indented by the braces of all lines before it. -/
theorem allIndented_concat {lines : List Line} {l : Line} :
    AllIndented (lines ++ [l]) ↔ AllIndented lines ∧ l.Indented (braceDepth (texts lines)) := by
  constructor
  · intro h
    refine ⟨?_, h lines l [] rfl⟩
    intro before m after hlines
    exact h before m (after ++ [l]) (by rw [hlines]; simp)
  · rintro ⟨hlines, hl⟩ before m after hsplit
    rcases List.eq_nil_or_concat after with rfl | ⟨rest, last, rfl⟩
    · obtain ⟨rfl, hsame⟩ := List.append_inj' hsplit rfl
      cases hsame
      exact hl
    · rw [List.concat_eq_append, ← List.cons_append, ← List.append_assoc] at hsplit
      obtain ⟨hrest, -⟩ := List.append_inj' hsplit rfl
      exact hlines before m rest hrest

end Line

/-! ## Standing pages -/

namespace Page

/-- The texts of the lines of a page. -/
def text (p : Page) : List Char :=
  Line.texts p.lines

/-- The lines of the page are indented by braces, and its level and its open braces are at the
depth. -/
structure Stands (p : Page) (k : Int) : Prop where
  lines : Line.AllIndented p.lines
  depth : p.depth = k
  braces : braceDepth p.text = k

variable {p : Page} {k : Int}

theorem text_eq (p : Page) : p.text = Line.texts p.done ++ p.last.text := by
  simp [text, lines]

/-- A character opens and closes braces as it does by itself, whatever is written before it. -/
theorem braceDepth_put (p : Page) (c : Char) :
    braceDepth (p.put c).text = braceDepth p.text + braceDepth [c] := by
  have hmark : braceDepth "///".toList = 0 := by decide
  have hmark' : braceDepth "/// ".toList = 0 := by decide
  have hfeed : braceDepth ['\n'] = 0 := by decide
  rw [text_eq, text_eq]
  unfold put
  by_cases hc : c = '\n'
  · -- A line end can write the bare mark of a comment before it.
    subst hc
    simp only [↓reduceIte, Line.texts_append, Line.texts_singleton, Line.blank_text,
      braceDepth_append, braceDepth_nil, hfeed]
    split
    · -- The mark has no braces.
      next hempty => rw [hempty.2, hmark, braceDepth_nil]
    · rfl
  · simp only [hc, ↓reduceIte, braceDepth_append]
    split
    · next hempty =>
      rw [hempty, braceDepth_nil]
      split
      · rw [braceDepth_append, hmark']
        omega
      · simp
    · rw [braceDepth_append, Int.add_assoc]

/-- After a character the line is empty exactly if the character ended it. -/
theorem last_put_eq_nil (p : Page) (c : Char) : (p.put c).last.text = [] ↔ c = '\n' := by
  unfold put
  by_cases hc : c = '\n'
  · simp [hc]
  · simp only [hc, ↓reduceIte, iff_false]
    split <;> simp

/-- A line end keeps lines indented. The line that documentation marks has to be at the depth of
the braces. -/
theorem put_newline_indented (h : Line.AllIndented p.lines)
    (hmark : p.inDoc = true → p.last.text = [] → p.depth = braceDepth p.text) :
    Line.AllIndented (p.put '\n').lines := by
  obtain ⟨hdone, hlast⟩ := Line.allIndented_concat.1 h
  have hopen : 0 ≤ braceDepth p.text := by
    rw [text_eq, braceDepth_append]
    exact hlast.covered.nonneg
  have hline : Line.Indented (braceDepth (Line.texts p.done))
      (if p.inDoc ∧ p.last.text = [] then ⟨p.depth, "///".toList⟩ else p.last) := by
    split
    · next hempty =>
      have htext : p.text = Line.texts p.done := by rw [text_eq, hempty.2, List.append_nil]
      have hslashes : "///".toList = ['/', '/', '/'] := rfl
      rw [← htext, hslashes]
      exact Line.indented_doc (hmark hempty.1 hempty.2) hopen (by decide)
    · exact hlast
  rw [put_newline, lines, Line.allIndented_concat, Line.allIndented_concat]
  refine ⟨⟨hdone, hline⟩, Line.indented_of_empty rfl ?_⟩
  rw [Line.texts_append, braceDepth_append, Line.texts_singleton]
  exact hline.covered.nonneg

/-- A character in the middle of a line keeps lines indented, if it closes no brace that is not
open. -/
theorem put_mid_indented (h : Line.AllIndented p.lines) {c : Char} (hc : c ≠ '\n')
    (hmid : p.last.text ≠ []) (hcover : 0 ≤ braceDepth p.text + braceDepth [c]) :
    Line.AllIndented (p.put c).lines := by
  obtain ⟨hdone, hlast⟩ := Line.allIndented_concat.1 h
  have hput : (p.put c).lines = p.done ++ [{ p.last with text := p.last.text ++ [c] }] := by
    simp [put, lines, hc, hmid]
  rw [hput, Line.allIndented_concat]
  refine ⟨hdone, ?_, ?_⟩
  · rw [text_eq, braceDepth_append] at hcover
    exact covered_append.2 ⟨hlast.covered,
      covered_singleton.2 ⟨hlast.covered.nonneg, hcover⟩⟩
  · intro d ds hds
    obtain ⟨e, es, hes⟩ := List.exists_cons_of_ne_nil hmid
    simp only [hes, List.cons_append, List.cons.injEq] at hds
    rw [← hds.1]
    exact hlast.first e es hes

/-- A character at the start of a line keeps lines indented, if it closes no brace that is not open
and the page is at the depth at which the character has to stand. -/
theorem put_start_indented (h : Line.AllIndented p.lines) {c : Char} (hdoc : p.inDoc = false)
    (hc : isBlank c = false) (hstart : p.last.text = [])
    (hcover : 0 ≤ braceDepth p.text + braceDepth [c])
    (hdepth : p.depth = braceDepth p.text - (if c = '\x7d' then 1 else 0)) :
    Line.AllIndented (p.put c).lines := by
  obtain ⟨hdone, hlast⟩ := Line.allIndented_concat.1 h
  have hfeed : c ≠ '\n' := by
    rintro rfl
    exact absurd hc (by decide)
  have hput : (p.put c).lines = p.done ++ [⟨p.depth, [c]⟩] := by
    simp [put, lines, hfeed, hstart, hdoc]
  have htext : p.text = Line.texts p.done := by rw [text_eq, hstart, List.append_nil]
  have hopen : 0 ≤ braceDepth p.text := by
    rw [text_eq, braceDepth_append]
    exact hlast.covered.nonneg
  rw [hput, Line.allIndented_concat, ← htext]
  refine ⟨hdone, covered_singleton.2 ⟨hopen, hcover⟩, ?_⟩
  intro d ds hds
  cases hds
  exact ⟨hc, hdepth⟩

/-- Within documentation a line starts with its mark. -/
theorem put_doc_indented (h : Line.AllIndented p.lines) {c : Char} (hdoc : p.inDoc = true)
    (hfeed : c ≠ '\n') (hc : Unbraced [c]) (hstart : p.last.text = [])
    (hdepth : p.depth = braceDepth p.text) : Line.AllIndented (p.put c).lines := by
  obtain ⟨hdone, hlast⟩ := Line.allIndented_concat.1 h
  have hput : (p.put c).lines = p.done ++ [⟨p.depth, '/' :: ['/', '/', ' ', c]⟩] := by
    simp [put, lines, hfeed, hstart, hdoc]
  have htext : p.text = Line.texts p.done := by rw [text_eq, hstart, List.append_nil]
  have hopen : 0 ≤ braceDepth p.text := by
    rw [text_eq, braceDepth_append]
    exact hlast.covered.nonneg
  have hrest : Unbraced (['/', '/', ' '] ++ [c]) := unbraced_append.2 ⟨by decide, hc⟩
  rw [hput, Line.allIndented_concat, ← htext]
  exact ⟨hdone, Line.indented_doc hdepth hopen hrest⟩

/-- A character that is no brace keeps a page standing. Outside of documentation it must not start
a line with white space. -/
theorem Stands.put (h : p.Stands k) {c : Char} (hc : Unbraced [c])
    (hblank : p.last.text = [] → c ≠ '\n' → isBlank c = false) : (p.put c).Stands k := by
  have hdepth : p.depth = braceDepth p.text := h.depth.trans h.braces.symm
  -- The line so far is covered, and a character that is no brace does not change that.
  have hcover : 0 ≤ braceDepth p.text + braceDepth [c] := by
    obtain ⟨-, hlast⟩ := Line.allIndented_concat.1 h.lines
    rw [hc.braceDepth, text_eq, braceDepth_append, Int.add_zero]
    exact hlast.covered.nonneg
  refine ⟨?_, by rw [put_depth, h.depth], by rw [braceDepth_put, hc.braceDepth, h.braces]; simp⟩
  by_cases hfeed : c = '\n'
  · subst hfeed
    exact put_newline_indented h.lines fun _ _ => hdepth
  · by_cases hstart : p.last.text = []
    · -- At the start of a line the mark of a comment comes first, inside documentation.
      cases hdoc : p.inDoc with
      | true => exact put_doc_indented h.lines hdoc hfeed hc hstart hdepth
      | false =>
        have hplain : c ≠ '\x7d' := by
          rintro rfl
          exact hc.2 (by simp)
        refine put_start_indented h.lines hdoc (hblank hstart hfeed) hstart hcover ?_
        rw [if_neg hplain, Int.sub_zero]
        exact hdepth
    · exact put_mid_indented h.lines hfeed hstart hcover

end Page

/-! ## Texts of pages -/

namespace Text

/-- The braces of the text close each other: as many are closed as are opened, and none before it
is open. -/
def Balanced (cs : List Char) : Prop :=
  braceDepth cs = 0 ∧ ∀ front, front <+: cs → 0 ≤ braceDepth front

/-- Each line with something on it is preceded by exactly as many units of indentation as there are
braces open on the lines before it, less one if it starts with a closing brace. -/
def IndentedByBraces (unit : String) (cs : List Char) : Prop :=
  ∀ before line after, cs.splitOn '\n' = before ++ line :: after → line ≠ [] →
    ∃ (d : Nat) (c : Char) (rest : List Char),
      line = (List.replicate d unit.toList).flatten ++ c :: rest ∧ isBlank c = false ∧
        (d : Int) = braceDepth before.flatten - (if c = '\x7d' then 1 else 0)

/-- Copies of a text, character by character. -/
theorem toList_copies (count : Int) (unit : String) :
    (copies count unit).toList = (List.replicate count.toNat unit.toList).flatten := by
  unfold copies
  by_cases hunit : unit = ""
  · simp [hunit]
  · rw [if_neg hunit, String.toList_join, List.flatMap_def, List.map_replicate]

theorem mem_copies {c : Char} {count : Int} {unit : String}
    (h : c ∈ (copies count unit).toList) : c ∈ unit.toList := by
  rw [toList_copies, List.mem_flatten] at h
  obtain ⟨copy, hcopy, hc⟩ := h
  rw [List.eq_of_mem_replicate hcopy] at hc
  exact hc

theorem unbraced_copies {unit : String} (h : Unbraced unit.toList) (count : Int) :
    Unbraced (copies count unit).toList :=
  ⟨fun hmem => h.1 (mem_copies hmem), fun hmem => h.2 (mem_copies hmem)⟩

end Text

/-- Line ends change nothing of the braces. -/
theorem Text.braceDepth_intercalate (lines : List (List Char)) :
    braceDepth (['\n'].intercalate lines) = braceDepth lines.flatten := by
  have hfeed : braceDepth ['\n'] = 0 := by decide
  induction lines with
  | nil => rfl
  | cons l rest ih =>
    cases rest with
    | nil => simp
    | cons m ms =>
      rw [List.intercalate_cons_cons, braceDepth_append, braceDepth_append, ih, hfeed,
        List.flatten_cons (l := l), braceDepth_append, Int.add_zero]

section Shown

variable {unit : String} (hunit : Unbraced unit.toList) (level : Int)

include hunit

/-- The indentation of a line has no braces. -/
theorem Line.braceDepth_shown (l : Line) :
    braceDepth (l.shown unit level) = braceDepth l.text := by
  unfold Line.shown
  split
  · next hempty => rw [hempty]
  · rw [braceDepth_append, (unbraced_copies hunit _).braceDepth, Int.zero_add]

theorem Line.covered_shown {opened : Int} {l : Line} (h : Covered opened l.text)
    (hopened : 0 ≤ opened) : Covered opened (l.shown unit level) := by
  unfold Line.shown
  split
  · exact covered_nil.2 hopened
  · have hindentation := unbraced_copies hunit (level + l.depth)
    refine covered_append.2 ⟨hindentation.covered hopened, ?_⟩
    rw [hindentation.braceDepth, Int.add_zero]
    exact h

/-- Lines as they are shown have the braces of their texts. -/
theorem Line.braceDepth_map_shown (lines : List Line) :
    braceDepth (lines.map (Line.shown unit level)).flatten = braceDepth (Line.texts lines) := by
  unfold Line.texts
  induction lines with
  | nil => rfl
  | cons l rest ih =>
    rw [List.map_cons, List.flatten_cons, List.flatMap_cons, braceDepth_append, braceDepth_append,
      Line.braceDepth_shown hunit, ih]

/-- Lines that are indented by braces are covered by the lines before them. -/
theorem Line.covered_lines (before : List Line) {lines : List Line}
    (h : Line.AllIndented (before ++ lines)) (hbefore : 0 ≤ braceDepth (Line.texts before)) :
    Covered (braceDepth (Line.texts before))
      (['\n'].intercalate (lines.map (Line.shown unit level))) := by
  induction lines generalizing before with
  | nil => exact covered_nil.2 hbefore
  | cons l rest ih =>
    have hl : l.Indented (braceDepth (Line.texts before)) := h before l rest rfl
    have hline := Line.covered_shown hunit level hl.covered hbefore
    -- The depth that the line leaves is the one the rest is covered from.
    have hafter : braceDepth (Line.texts (before ++ [l])) =
        braceDepth (Line.texts before) + braceDepth (l.shown unit level) := by
      rw [Line.texts_append, braceDepth_append, Line.texts_singleton, Line.braceDepth_shown hunit]
    have hrest := ih (before ++ [l]) (by simpa using h) (by
      rw [hafter]
      exact hline.nonneg)
    rw [hafter] at hrest
    cases rest with
    | nil => simpa using hline
    | cons m ms =>
      -- Between two lines is a line end, which is no brace.
      have hfeed : Covered (braceDepth (Line.texts before) + braceDepth (l.shown unit level))
          ['\n'] := Unbraced.covered (by decide) hline.nonneg
      rw [List.map_cons, List.map_cons, List.intercalate_cons_cons, covered_append, covered_append,
        braceDepth_append, (by decide : braceDepth ['\n'] = 0), Int.add_zero]
      exact ⟨⟨hline, hfeed⟩, hrest⟩

end Shown

/-- The text of a page that stands at depth zero is indented by braces, and its braces are
balanced. -/
theorem Page.Stands.text_indented {p : Page} (h : p.Stands 0)
    (hlines : Layout.AreLinesFrom 0 p.lines) {unit : String} (hunit : Unbraced unit.toList)
    (hfeed : '\n' ∉ unit.toList) :
    Balanced (p.shown unit 0) ∧ IndentedByBraces unit (p.shown unit 0) := by
  rw [Page.shown_eq_intercalate]
  constructor
  · constructor
    · rw [braceDepth_intercalate, Line.braceDepth_map_shown hunit]
      exact h.braces
    · have hcovered := Line.covered_lines hunit 0 [] h.lines (Int.le_refl 0)
      intro front hfront
      simpa using hcovered front hfront
  · -- No line has a line end in it, so the lines of the text are those of the page.
    have hone : ∀ l ∈ p.lines.map (Line.shown unit 0), '\n' ∉ l := by
      intro line hline
      obtain ⟨l, hl, rfl⟩ := List.mem_map.1 hline
      unfold Line.shown
      split
      · simp
      · rw [List.mem_append, not_or]
        exact ⟨fun hmem => hfeed (mem_copies hmem), (hlines l hl).2⟩
    intro before line after hsplit hne
    rw [List.splitOn_intercalate '\n' hone (by simp [Page.lines])] at hsplit
    obtain ⟨before', rest', hboth, rfl, hrest⟩ := List.map_eq_append_iff.1 hsplit
    obtain ⟨l, after', rfl, rfl, -⟩ := List.map_eq_cons_iff.1 hrest
    have hindented : l.Indented (braceDepth (Line.texts before')) := h.lines before' l after' hboth
    -- A line that is not empty starts as deep as the braces before it say.
    have htop := (hlines l (by rw [hboth]; simp)).1 (Int.le_refl 0)
    cases htext : l.text with
    | nil =>
      rw [Line.shown, if_pos htext] at hne
      exact absurd rfl hne
    | cons c rest =>
      obtain ⟨hblank, hdepth⟩ := hindented.first c rest htext
      refine ⟨l.depth.toNat, c, rest, ?_, hblank, ?_⟩
      · rw [Line.shown_of_ne_nil (by simp [htext]), toList_copies, htext, Int.zero_add]
      · rw [Line.braceDepth_map_shown hunit, ← hdepth]
        omega

end SwiftDecl
