import SwiftDecl.Proofs.Layout.Braces

/-!
# Blocks in braces

What a layout does to pages is said by the pages before and after it (`Layout.Takes`), and the
parts of a layout are put together by the states in between: at the start of a line
(`Page.Opened`), in the middle of one (`Page.Within`), or either (`Page.Settled`). In each of these
states a page stands at a depth. A text keeps to the depth if it has no braces and starts no line
with white space; an opening brace at the end of a line goes with an indentation, and a closing one
at the start of a line with the way back.
-/

namespace SwiftDecl

open Text

/-! ## Texts without braces -/

namespace Text

/-- No line of the text starts with white space. Its first character starts a line if it is
`fresh`. -/
def Flush : (fresh : Bool) → List Char → Prop
  | _, [] => True
  | fresh, c :: cs => (fresh = true → c ≠ '\n' → isBlank c = false) ∧ Flush (c == '\n') cs

instance : ∀ (fresh : Bool) (cs : List Char), Decidable (Flush fresh cs)
  | _, [] => isTrue trivial
  | fresh, c :: cs =>
    have : Decidable (Flush (c == '\n') cs) := instDecidableFlush (c == '\n') cs
    inferInstanceAs (Decidable ((fresh = true → c ≠ '\n' → isBlank c = false) ∧ _))

/-- A text on several lines, such as documentation or a statement. -/
structure Clean (s : String) : Prop where
  unbraced : Unbraced s.toList
  flush : Flush true s.toList

/-- A text on one line, such as a name or a type. -/
structure Inline (s : String) : Prop where
  unbraced : Unbraced s.toList
  one_line : '\n' ∉ s.toList

/-- Where no line starts, white space may stand. -/
theorem Flush.middle {fresh : Bool} {cs : List Char} (h : Flush fresh cs) : Flush false cs := by
  cases cs with
  | nil => trivial
  | cons c cs => exact ⟨by simp, h.2⟩

/-- In the middle of a line a text without line ends starts none. -/
theorem flush_of_one_line {cs : List Char} (h : '\n' ∉ cs) : Flush false cs := by
  induction cs with
  | nil => trivial
  | cons c cs ih =>
    rw [List.mem_cons, not_or] at h
    have hc : (c == '\n') = false := by
      rw [beq_eq_false_iff_ne]
      exact fun hsame => h.1 hsame.symm
    refine ⟨by simp, ?_⟩
    rw [hc]
    exact ih h.2

/-! ## Texts on one line -/

/-- A text stands on one line if each of its characters can. -/
theorem inline_iff {s : String} :
    Inline s ↔ ∀ c ∈ s.toList, c ≠ '\x7b' ∧ c ≠ '\x7d' ∧ c ≠ '\n' := by
  constructor
  · rintro ⟨⟨hopens, hcloses⟩, hfeed⟩ c hc
    refine ⟨?_, ?_, ?_⟩
    · rintro rfl
      exact hopens hc
    · rintro rfl
      exact hcloses hc
    · rintro rfl
      exact hfeed hc
  · intro h
    exact ⟨⟨fun hc => (h _ hc).1 rfl, fun hc => (h _ hc).2.1 rfl⟩, fun hc => (h _ hc).2.2 rfl⟩

theorem Inline.append {s t : String} (hs : Inline s) (ht : Inline t) : Inline (s ++ t) := by
  rw [inline_iff] at hs ht ⊢
  intro c hc
  rw [String.toList_append, List.mem_append] at hc
  exact hc.elim (hs c) (ht c)

/-- A part of a text on one line. -/
theorem Inline.of_subset {s t : String} (hs : Inline s) (h : t.toList ⊆ s.toList) : Inline t := by
  rw [inline_iff] at hs ⊢
  exact fun c hc => hs c (h hc)

/-- Texts on one line, with a text between them that is on one line too. -/
theorem Inline.intercalate {separator : String} (hseparator : Inline separator)
    {texts : List String} (h : ∀ s ∈ texts, Inline s) : Inline (separator.intercalate texts) := by
  have hlists : ∀ lists : List (List Char),
      (∀ l ∈ lists, ∀ c ∈ l, c ≠ '\x7b' ∧ c ≠ '\x7d' ∧ c ≠ '\n') →
        ∀ c ∈ separator.toList.intercalate lists, c ≠ '\x7b' ∧ c ≠ '\x7d' ∧ c ≠ '\n' := by
    intro lists hlists
    induction lists with
    | nil => simp
    | cons l rest ih =>
      intro c hc
      have hrest := ih fun m hm => hlists m (List.mem_cons_of_mem l hm)
      cases rest with
      | nil =>
        -- The last text has no separator after it.
        exact hlists l List.mem_cons_self c (by simpa using hc)
      | cons m ms =>
        rw [List.intercalate_cons_cons, List.mem_append, List.mem_append] at hc
        rcases hc with (hl | hs) | hm
        · exact hlists l List.mem_cons_self c hl
        · exact inline_iff.1 hseparator c hs
        · exact hrest c hm
  rw [inline_iff, String.toList_intercalate]
  refine hlists _ fun l hl => ?_
  obtain ⟨s, hs, rfl⟩ := List.mem_map.1 hl
  exact inline_iff.1 (h s hs)

end Text

namespace Page

variable {p : Page} {k : Int}

/-- Characters without braces keep a page standing. -/
theorem Stands.foldl_put (h : p.Stands k) {cs : List Char} (hcs : Unbraced cs)
    (hflush : Flush (decide (p.last.text = [])) cs) : (cs.foldl Page.put p).Stands k := by
  induction cs generalizing p with
  | nil => exact h
  | cons c cs ih =>
    obtain ⟨hc, hrest⟩ := unbraced_cons.1 hcs
    obtain ⟨hblank, hflushed⟩ := hflush
    have hput : (p.put c).Stands k := h.put hc (by simpa using hblank)
    have hstart : decide ((p.put c).last.text = []) = (c == '\n') := by
      rw [Bool.eq_iff_iff, decide_eq_true_eq, last_put_eq_nil, beq_iff_eq]
    refine ih hput hrest ?_
    rw [hstart]
    exact hflushed

/-- A text on several lines keeps a page standing. -/
theorem Stands.emit_clean (h : p.Stands k) {s : String} (hs : Clean s) : (p.emit s).Stands k := by
  refine h.foldl_put hs.unbraced ?_
  by_cases hstart : p.last.text = []
  · simpa [hstart] using hs.flush
  · simpa [hstart] using hs.flush.middle

/-- Within a line a text on one line keeps a page standing. -/
theorem Stands.emit_inline (h : p.Stands k) {s : String} (hs : Inline s)
    (hmid : p.last.text ≠ []) : (p.emit s).Stands k := by
  refine h.foldl_put hs.unbraced ?_
  simpa [hmid] using flush_of_one_line hs.one_line

/-- A text on one line does not end a line. -/
theorem last_emit_ne_nil {s : String} (hs : '\n' ∉ s.toList)
    (h : p.last.text ≠ [] ∨ s ≠ "") : (p.emit s).last.text ≠ [] := by
  have hne : p.last.text ≠ [] ∨ s.toList ≠ [] := by simpa using h
  unfold emit
  clear h
  generalize s.toList = cs at hs hne
  induction cs generalizing p with
  | nil => simpa using hne
  | cons c cs ih =>
    rw [List.mem_cons, not_or] at hs
    refine ih hs.2 (.inl ?_)
    rw [Ne, last_put_eq_nil]
    exact fun hsame => hs.1 hsame.symm

/-! ## States of a page -/

/-- The page stands, outside of documentation. -/
structure Settled (k : Nat) (p : Page) : Prop where
  stands : p.Stands k
  outside : p.inDoc = false

/-- A line starts. -/
structure Opened (k : Nat) (p : Page) : Prop extends Settled k p where
  start : p.last.text = []

/-- A line is being written. -/
structure Within (k : Nat) (p : Page) : Prop extends Settled k p where
  mid : p.last.text ≠ []

end Page

/-! ## What layouts do to pages -/

open Page

/-- From each page of the first kind the layout can be written, and leads to one of the second. -/
def Layout.Takes (P : Page → Prop) (layout : Layout) (Q : Page → Prop) : Prop :=
  ∀ p, P p → Layout.Fits p.depth layout ∧ Q (p.write layout)

namespace Layout

variable {P Q R : Page → Prop} {a b : Layout} {k : Nat} {s : String}

theorem takes_nil : Takes P [] P :=
  fun _ h => ⟨trivial, h⟩

/-- One layout after another. -/
theorem Takes.append (ha : Takes P a Q) (hb : Takes Q b R) : Takes P (a ++ b) R := by
  intro p hp
  obtain ⟨hfits, hq⟩ := ha p hp
  obtain ⟨hfits', hr⟩ := hb (p.write a) hq
  rw [Page.write_depth] at hfits'
  rw [Page.write_append]
  exact ⟨Layout.fits_append.2 ⟨hfits, hfits'⟩, hr⟩

/-- A step before a layout. -/
theorem Takes.cons {step : Step} (hstep : Takes P [step] Q) (hb : Takes Q b R) :
    Takes P (step :: b) R :=
  hstep.append hb

/-- More can be asked for before. -/
theorem Takes.strengthen (h : Takes P a Q) (hP : ∀ p, R p → P p) : Takes R a Q :=
  fun p hp => h p (hP p hp)

/-- Less can be known after. -/
theorem Takes.weaken (h : Takes P a Q) (hQ : ∀ p, Q p → R p) : Takes P a R := by
  intro p hp
  obtain ⟨hfits, hq⟩ := h p hp
  exact ⟨hfits, hQ _ hq⟩

/-- A text can be written anywhere. -/
theorem takes_text (h : ∀ p, P p → Q (p.emit s)) : Takes P [.text s] Q :=
  fun p hp => ⟨⟨trivial, trivial⟩, h p hp⟩

/-- A text on several lines. -/
theorem takes_clean (hs : Clean s) : Takes (Settled k) [.text s] (Settled k) :=
  takes_text fun _ hp => ⟨hp.stands.emit_clean hs, by rw [emit_inDoc, hp.outside]⟩

/-- The end of a line. -/
theorem takes_newline : Takes (Settled k) [.text "\n"] (Opened k) := by
  refine takes_text fun p hp => ⟨⟨?_, by rw [emit_inDoc, hp.outside]⟩, ?_⟩
  · exact hp.stands.emit_clean ⟨by decide, by simp [Flush]⟩
  · rw [emit_newline, last_put_eq_nil]

/-- A line with nothing on it. -/
theorem takes_blank : Takes (Opened k) [.text "\n"] (Opened k) :=
  takes_newline.strengthen fun _ hp => hp.toSettled

/-- A text that goes on with a line. -/
theorem takes_inline (hs : Inline s) : Takes (Within k) [.text s] (Within k) := by
  refine takes_text fun p hp => ⟨⟨?_, by rw [emit_inDoc, hp.outside]⟩, ?_⟩
  · exact hp.stands.emit_inline hs hp.mid
  · exact last_emit_ne_nil hs.one_line (.inl hp.mid)

/-- A text that starts a line or goes on with it. -/
theorem takes_word (hs : Inline s) (hfirst : ∃ c cs, s.toList = c :: cs ∧ isBlank c = false) :
    Takes (Settled k) [.text s] (Within k) := by
  obtain ⟨c, cs, hcs, hblank⟩ := hfirst
  have hne : s ≠ "" := by
    rintro rfl
    cases hcs
  refine takes_text fun p hp => ⟨⟨?_, by rw [emit_inDoc, hp.outside]⟩, ?_⟩
  · have hrest : Flush false s.toList := flush_of_one_line hs.one_line
    refine hp.stands.emit_clean ⟨hs.unbraced, ?_⟩
    rw [hcs] at hrest ⊢
    exact ⟨fun _ _ => hblank, hrest.2⟩
  · exact last_emit_ne_nil hs.one_line (.inr hne)

/-- Two texts in turn are one text. -/
theorem Takes.text_append {t : String} (h : Takes P (.text s :: .text t :: a) Q) :
    Takes P (.text (s ++ t) :: a) Q := by
  intro p hp
  obtain ⟨⟨-, -, hfits⟩, hq⟩ := h p hp
  refine ⟨⟨trivial, ?_⟩, ?_⟩
  · simpa [Step.rise] using hfits
  · rw [Page.write_cons, Page.step, Page.emit_append]
    exact hq

/-! ## Layouts of texts -/

/-- The characters of the texts of a layout. -/
def chars (layout : Layout) : List Char :=
  layout.flatMap fun step =>
    match step with
    | .text s => s.toList
    | _ => []

/-- The layout consists of texts alone. -/
def OnlyTexts (layout : Layout) : Prop :=
  ∀ step ∈ layout, ∃ s, step = .text s

theorem chars_append (a b : Layout) : chars (a ++ b) = chars a ++ chars b :=
  List.flatMap_append

theorem chars_text (s : String) (rest : Layout) :
    chars (.text s :: rest) = s.toList ++ chars rest :=
  List.flatMap_cons

theorem OnlyTexts.append (ha : OnlyTexts a) (hb : OnlyTexts b) : OnlyTexts (a ++ b) := by
  intro step hstep
  rcases List.mem_append.1 hstep with hin | hin
  · exact ha step hin
  · exact hb step hin

theorem onlyTexts_nil : OnlyTexts [] := by
  intro step hstep
  cases hstep

theorem onlyTexts_text (s : String) : OnlyTexts [.text s] := by
  intro step hstep
  exact ⟨s, List.mem_singleton.1 hstep⟩

/-- Texts alone are written as one text, and can be written anywhere. -/
theorem OnlyTexts.write_eq (h : OnlyTexts a) (p : Page) :
    p.write a = p.emit (String.ofList (chars a)) ∧ ∀ level, Layout.Fits level a := by
  induction a generalizing p with
  | nil => exact ⟨by simp [chars, Page.emit], fun _ => trivial⟩
  | cons step rest ih =>
    obtain ⟨s, rfl⟩ := h step List.mem_cons_self
    have hrest : OnlyTexts rest := fun step hstep => h step (List.mem_cons_of_mem _ hstep)
    obtain ⟨hwrite, hfits⟩ := ih hrest (p.emit s)
    refine ⟨?_, fun level => ⟨trivial, hfits _⟩⟩
    rw [Page.write_cons, Page.step, hwrite, chars_text, String.ofList_append, Page.emit_append,
      String.ofList_toList]

/-- Outside of any indentation characters are written as they are. -/
theorem output_foldl_put {cs : List Char} {w : Writer} (hlevel : w.level = 0)
    (hdoc : w.inDoc = false) :
    (cs.foldl Writer.put w).output = w.output ++ String.ofList cs := by
  induction cs generalizing w with
  | nil => simp
  | cons c cs ih =>
    have hnone : Text.copies 0 w.unit = "" := by simp [Text.copies, String.join]
    have hput : (w.put c).output = w.output.push c ∧ (w.put c).level = 0 ∧
        (w.put c).inDoc = false := by
      unfold Writer.put
      by_cases hc : c = '\n'
      · simp [hc, hdoc, hlevel]
      · simp [hc, hdoc, hlevel, Writer.indentation, hnone]
    obtain ⟨houtput, hlevel', hdoc'⟩ := hput
    rw [List.foldl_cons, ih hlevel' hdoc', houtput]
    simp [← String.toList_inj]

/-- The text of texts alone. -/
theorem OnlyTexts.text_eq (h : OnlyTexts a) : Layout.text a = .ok (String.ofList (chars a)) := by
  have hwrite : ∀ (w : Writer) (a : Layout), OnlyTexts a →
      w.write a = ((chars a).foldl Writer.put w, none) := by
    intro w a ha
    induction a generalizing w with
    | nil => rfl
    | cons step rest ih =>
      obtain ⟨s, rfl⟩ := ha step List.mem_cons_self
      have hrest : OnlyTexts rest := fun step hstep => ha step (List.mem_cons_of_mem _ hstep)
      rw [Writer.write, Writer.step]
      simp only
      rw [ih (w.emit s) hrest, chars_text, List.foldl_append]
      rfl
  rw [Layout.text, hwrite {} a h]
  simp only
  rw [output_foldl_put rfl rfl]
  simp

/-- Texts alone do what their characters do as one text. -/
theorem OnlyTexts.takes (h : OnlyTexts a) (hs : s.toList = chars a)
    (hb : Takes P (.text s :: b) Q) : Takes P (a ++ b) Q := by
  intro p hp
  obtain ⟨⟨-, hfits⟩, hq⟩ := hb p hp
  obtain ⟨hwrite, hall⟩ := h.write_eq p
  rw [← hs, String.ofList_toList] at hwrite
  refine ⟨Layout.fits_append.2 ⟨hall _, ?_⟩, ?_⟩
  · have hdepth := Page.write_depth p a
    rw [hwrite, Page.emit_depth] at hdepth
    rw [← hdepth]
    simpa [Step.rise] using hfits
  · rw [Page.write_append, hwrite]
    exact hq

/-! ## Blocks in braces -/

/-- An opening brace within a line leaves the page with a brace more than its depth. -/
theorem put_opening {p : Page} (h : p.Stands k) (hmid : p.last.text ≠ []) :
    Line.AllIndented (p.put '\x7b').lines ∧ braceDepth (p.put '\x7b').text = k + 1 := by
  have hbraces : braceDepth (p.put '\x7b').text = k + 1 := by
    rw [braceDepth_put, h.braces]
    rfl
  refine ⟨put_mid_indented h.lines (by decide) hmid ?_, hbraces⟩
  rw [← braceDepth_put, hbraces]
  omega

/-- A block opens at the end of a line. -/
theorem takes_open : Takes (Within k) [.text " \x7b\n", .indent] (Opened (k + 1)) := by
  intro p hp
  -- Before the brace is a space, so the line it ends is not empty.
  have hspace : (p.put ' ').Stands k := hp.stands.put (by decide) fun h => absurd h hp.mid
  have hmid : (p.put ' ').last.text ≠ [] := by
    rw [Ne, last_put_eq_nil]
    decide
  obtain ⟨hlines, hbraces⟩ := put_opening hspace hmid
  have hemit : p.emit " \x7b\n" = ((p.put ' ').put '\x7b').put '\n' := rfl
  refine ⟨⟨trivial, trivial, trivial⟩, ⟨⟨?_, ?_, ?_⟩, ?_⟩, ?_⟩
  · -- the lines so far
    show Line.AllIndented (p.emit " \x7b\n").lines
    rw [hemit]
    refine put_newline_indented hlines fun hdoc => ?_
    simp [hp.outside] at hdoc
  · -- one level deeper, by the step behind the text
    show (p.emit " \x7b\n").depth + 1 = _
    rw [emit_depth, hp.stands.depth]
    rfl
  · -- one brace more
    show braceDepth (p.emit " \x7b\n").text = _
    rw [hemit, braceDepth_put, hbraces]
    rfl
  · show (p.emit " \x7b\n").inDoc = false
    rw [emit_inDoc, hp.outside]
  · show (p.emit " \x7b\n").last.text = []
    rw [hemit, last_put_eq_nil]

/-- A closing brace that starts a line, one level back, leaves the page with braces at its depth. -/
theorem put_closing {p : Page} (h : Line.AllIndented p.lines) (hdoc : p.inDoc = false)
    (hstart : p.last.text = []) (hdepth : p.depth = k) (hbraces : braceDepth p.text = k + 1) :
    (p.put '\x7d').Stands k := by
  have hone : braceDepth ['\x7d'] = -1 := by decide
  refine ⟨put_start_indented h hdoc (by decide) hstart (by omega) ?_, by rw [put_depth, hdepth], ?_⟩
  · rw [hdepth, hbraces, if_pos rfl]
    omega
  · rw [braceDepth_put, hbraces, hone]
    omega

/-- The brace that closes a block starts a line, one level back. -/
theorem takes_brace : Takes (Opened (k + 1)) [.unindent, .text "\x7d"] (Within k) := by
  intro p hp
  have hdepth : p.depth = k + 1 := hp.stands.depth
  have hback : (p.step .unindent).depth = k := by
    rw [step_depth, hdepth]
    exact Int.add_neg_cancel_right k 1
  have hwrite : p.write [.unindent, .text "\x7d"] = (p.step .unindent).put '\x7d' := rfl
  refine ⟨⟨?_, trivial, trivial⟩, ?_⟩
  · show 0 ≤ p.depth - 1
    omega
  rw [hwrite]
  refine ⟨⟨put_closing hp.stands.lines hp.outside hp.start hback hp.stands.braces, ?_⟩, ?_⟩
  · rw [put_inDoc]
    exact hp.outside
  · rw [Ne, last_put_eq_nil]
    decide

/-- The brace that closes a block, with a text that goes on with its line. -/
theorem takes_brace_append (hs : Takes (Within k) [.text s] Q) :
    Takes (Opened (k + 1)) [.unindent, .text ("\x7d" ++ s)] Q := by
  have hboth : Takes (Opened (k + 1)) ([.unindent, .text "\x7d"] ++ [.text s]) Q :=
    takes_brace.append hs
  intro p hp
  obtain ⟨hfits, hq⟩ := hboth p hp
  refine ⟨⟨hfits.1, trivial, trivial⟩, ?_⟩
  rw [Page.write_cons, Page.write_cons, Page.step, Page.emit_append]
  exact hq

/-- A block ends with its brace, on a line of its own. -/
theorem takes_close : Takes (Opened (k + 1)) [.unindent, .text "\x7d\n"] (Opened k) :=
  takes_brace_append (s := "\n") (takes_newline.strengthen fun _ hp => hp.toSettled)

/-- A branch ends with its brace, and the line goes on. -/
theorem takes_branch : Takes (Opened (k + 1)) [.unindent, .text "\x7d "] (Within k) :=
  takes_brace_append (s := " ") (takes_inline ⟨by decide, by decide⟩)

/-! ## Documentation -/

/-- Documentation is written on lines of its own. -/
theorem takes_doc_text (hs : Clean s) :
    Takes (Opened k) [.beginDoc, .text s, .endDoc] (Opened k) := by
  intro p hp
  have hbegun : ({ p with inDoc := true } : Page).Stands k :=
    ⟨hp.stands.lines, hp.stands.depth, hp.stands.braces⟩
  have htext := hbegun.emit_clean hs
  refine ⟨⟨trivial, trivial, trivial, trivial⟩, ?_⟩
  have hwrite : p.write [.beginDoc, .text s, .endDoc] =
      (({ p with inDoc := true } : Page).emit s).step .endDoc := rfl
  rw [hwrite]
  generalize ({ p with inDoc := true } : Page).emit s = q at htext
  unfold Page.step
  by_cases hstart : q.last.text = []
  · rw [if_pos hstart]
    exact ⟨⟨⟨htext.lines, htext.depth, htext.braces⟩, rfl⟩, hstart⟩
  · rw [if_neg hstart]
    have hline : (q.emit "\n").Stands k := htext.emit_clean ⟨by decide, by simp [Flush]⟩
    exact ⟨⟨⟨hline.lines, hline.depth, hline.braces⟩, rfl⟩, (last_put_eq_nil q '\n').2 rfl⟩

/-- Documentation of texts. -/
theorem OnlyTexts.takes_doc (h : OnlyTexts a) (hs : s.toList = chars a) (hclean : Clean s) :
    Takes (Opened k) (.beginDoc :: a ++ [.endDoc]) (Opened k) := by
  intro p hp
  obtain ⟨-, hq⟩ := takes_doc_text hclean p hp
  obtain ⟨hwrite, hall⟩ := h.write_eq (p.step .beginDoc)
  rw [← hs, String.ofList_toList] at hwrite
  refine ⟨⟨trivial, Layout.fits_append.2 ⟨hall _, trivial, trivial⟩⟩, ?_⟩
  rw [List.cons_append, Page.write_cons, Page.write_append, hwrite]
  exact hq

/-! ## Texts of layouts -/

/-- The page of a new writer stands at depth zero. -/
theorem opened_empty : Opened 0 ({} : Page) where
  stands := by
    refine ⟨?_, rfl, rfl⟩
    have hblank : Line.AllIndented ([] ++ [Line.blank]) := by
      refine Line.allIndented_concat.2 ⟨?_, Line.indented_of_empty rfl (Int.le_refl 0)⟩
      intro before l after hsplit
      simp at hsplit
    exact hblank
  outside := rfl
  start := rfl

/-- A layout that leads back to depth zero has a text, with balanced braces and indented by
them. -/
theorem Takes.text_indented (h : Takes (Opened 0) a (Settled 0)) :
    ∃ s, Layout.text a = .ok s ∧ Balanced s.toList ∧ IndentedByBraces "  " s.toList := by
  obtain ⟨hfits, hsettled⟩ := h {} opened_empty
  have hlevel : Layout.Fits ({} : Writer).level a := hfits
  obtain ⟨w, hw⟩ := Writer.write_eq_none_iff.2 hlevel
  have hshows := (Page.shows_empty rfl rfl).write hw
  have htext : Layout.text a = .ok w.output := by
    rw [Layout.text, hw]
  have hlines : AreLinesFrom 0 (({} : Page).write a).lines :=
    areLinesFrom_write (areLinesFrom_empty 0 false) (by simp) hfits
  have houtput : w.output.toList = (({} : Page).write a).shown "  " 0 := hshows.output
  refine ⟨w.output, htext, ?_⟩
  rw [houtput]
  exact hsettled.stands.text_indented hlines (by decide) (by decide)

end Layout

end SwiftDecl
