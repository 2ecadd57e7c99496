import SwiftDecl.Proofs.Declaration.Indentation
import SwiftDecl.Proofs.Declaration.Parts
import SwiftDecl.Proofs.Layout.Levels

/-!
# Documentation as comments

Every line of documentation is marked as a comment, as long as the writer stays within it. A
declaration in a slot of the documentation leaves it where its own documentation ends, and its
header is then written as code. The lines of documentation are comments exactly if no documentation
ends inside of it (`Code.doc_commented_iff`).

That the header shows, and is not a comment by chance, is because it starts with the sign of an
attribute or with a letter (`Layout.StartsCode`). The line that it starts stays on the page with its
first character (`Page.HasLine`).
-/

namespace SwiftDecl

open Layout

/-! ## Pages of comments -/

/-- After its indentation the line starts with the mark of a comment. -/
def Line.IsComment (l : Line) : Prop :=
  "///".toList <+: l.text

namespace Page

variable {p : Page}

/-- The page is within documentation, and each line that has been started is a comment. -/
structure Commented (p : Page) : Prop where
  done : ∀ l ∈ p.done, l.IsComment
  last : p.last.text = [] ∨ p.last.IsComment
  inDoc : p.inDoc = true

theorem Commented.put (h : p.Commented) (c : Char) : (p.put c).Commented := by
  by_cases hc : c = '\n'
  · -- A line end: the line that is closed is a comment, also if nothing stood on it.
    rw [hc, put_newline]
    refine ⟨?_, .inl rfl, h.inDoc⟩
    intro l hl
    rcases List.mem_append.1 hl with hdone | hlast
    · exact h.done l hdone
    · rw [List.mem_singleton.1 hlast]
      split
      · exact List.prefix_rfl
      · next hne =>
        -- Something stood on it, and what stands on the last line is a comment.
        rw [h.inDoc] at hne
        exact h.last.resolve_left fun hempty => hne ⟨rfl, hempty⟩
  · -- Any other character goes behind the mark, which is there or is written first.
    unfold Page.put
    rw [if_neg hc]
    refine ⟨h.done, .inr ?_, h.inDoc⟩
    split
    · rw [if_pos h.inDoc]
      exact ⟨[' ', c], rfl⟩
    · next hne => exact (h.last.resolve_left hne).trans (List.prefix_append _ _)

theorem Commented.emit (h : p.Commented) (s : String) : (p.emit s).Commented :=
  emit_induction (fun _ c hq => hq.put c) s h

/-- Only the end of documentation leads out of it. -/
theorem Commented.step {s : Step} (h : p.Commented) (hs : s ≠ .endDoc) : (p.step s).Commented := by
  cases s with
  | text s => exact h.emit s
  | endDoc => exact absurd rfl hs
  | beginDoc => exact { h with inDoc := rfl }
  | _ => exact { h with }

theorem Commented.write {layout : Layout} (h : p.Commented) (hend : .endDoc ∉ layout) :
    (p.write layout).Commented := by
  induction layout generalizing p with
  | nil => exact h
  | cons s rest ih =>
    rw [List.mem_cons, not_or] at hend
    exact ih (h.step (Ne.symm hend.1)) hend.2

theorem step_endDoc (p : Page) :
    p.step .endDoc = { (if p.last.text = [] then p else p.emit "\n") with inDoc := false } := rfl

/-- The end of documentation ends the last comment, too. -/
theorem Commented.done_endDoc (h : p.Commented) : ∀ l ∈ (p.step .endDoc).done, l.IsComment := by
  rw [step_endDoc]
  by_cases hempty : p.last.text = []
  · rw [if_pos hempty]
    exact h.done
  · rw [if_neg hempty]
    exact (h.emit "\n").done

/-- After the end of documentation a line starts. -/
theorem last_endDoc (p : Page) : (p.step .endDoc).last.text = [] := by
  rw [step_endDoc]
  by_cases hempty : p.last.text = []
  · rw [if_pos hempty]
    exact hempty
  · rw [if_neg hempty, emit_newline, put_newline]
    rfl

/-! ## Lines that stay -/

/-- Some line of the page starts with the character. -/
def HasLine (c : Char) (p : Page) : Prop :=
  ∃ l ∈ p.lines, ∃ cs, l.text = c :: cs

variable {c : Char}

/-- A line that has been started keeps its first character. -/
theorem HasLine.put (h : p.HasLine c) (d : Char) : (p.put d).HasLine c := by
  obtain ⟨l, hl, cs, htext⟩ := h
  rw [lines, List.mem_append, List.mem_singleton] at hl
  unfold HasLine Page.put lines
  rcases hl with hdone | rfl
  · exact ⟨l, by split <;> simp [hdone], cs, htext⟩
  · by_cases hd : d = '\n'
    · exact ⟨p.last, by simp [hd, htext], cs, htext⟩
    · exact ⟨{ p.last with text := p.last.text ++ [d] }, by simp [hd, htext], cs ++ [d],
        by simp [htext]⟩

theorem HasLine.emit (h : p.HasLine c) (s : String) : (p.emit s).HasLine c :=
  emit_induction (fun _ d hq => hq.put d) s h

theorem HasLine.step (h : p.HasLine c) (s : Step) : (p.step s).HasLine c := by
  cases s with
  | text s => exact h.emit s
  | endDoc =>
    rw [step_endDoc]
    by_cases hempty : p.last.text = []
    · rw [if_pos hempty]
      exact h
    · rw [if_neg hempty]
      exact h.emit "\n"
  | _ => exact h

theorem HasLine.write (h : p.HasLine c) (layout : Layout) : (p.write layout).HasLine c := by
  induction layout generalizing p with
  | nil => exact h
  | cons s rest ih => exact ih (h.step s)

/-- At the start of a line of code, a text starts a line with its first character. -/
theorem hasLine_emit {s : String} {cs : List Char} (hs : s.toList = c :: cs) (hc : c ≠ '\n')
    (hlast : p.last.text = []) (hdoc : p.inDoc = false) : (p.emit s).HasLine c := by
  have hput : (p.put c).HasLine c := by
    refine ⟨⟨p.depth, [c]⟩, ?_, [], rfl⟩
    simp [Page.put, Page.lines, hc, hlast, hdoc]
  have hsplit : s = String.singleton c ++ String.ofList cs := by
    rw [← String.toList_inj, hs]
    simp
  have hone : p.emit (String.singleton c) = p.put c := by simp [Page.emit]
  rw [hsplit, emit_append, hone]
  exact hput.emit _

end Page

/-! ## Layouts that leave documentation -/

namespace Layout

/-- The layout starts with a text whose first character neither ends a line nor could start a
comment. -/
def StartsCode (layout : Layout) : Prop :=
  ∃ s rest c cs, layout = .text s :: rest ∧ s.toList = c :: cs ∧ c ≠ '\n' ∧ c ≠ '/'

/-- Somewhere documentation ends in front of code. -/
def Exposes (layout : Layout) : Prop :=
  ∃ before after, layout = before ++ .endDoc :: after ∧ StartsCode after

/-- If documentation ends in the layout, then somewhere in front of code. -/
def Escapes (layout : Layout) : Prop :=
  .endDoc ∈ layout → Exposes layout

variable {a b layout : Layout}

theorem StartsCode.append (h : StartsCode a) (b : Layout) : StartsCode (a ++ b) := by
  obtain ⟨s, rest, c, cs, rfl, hs⟩ := h
  exact ⟨s, rest ++ b, c, cs, rfl, hs⟩

/-- What stands in front of code can be missing or be code itself. -/
theorem StartsCode.prepend (hb : StartsCode b) (ha : a = [] ∨ StartsCode a) :
    StartsCode (a ++ b) := by
  rcases ha with rfl | ha
  · exact hb
  · exact ha.append b

theorem Exposes.append (h : Exposes a) (b : Layout) : Exposes (a ++ b) := by
  obtain ⟨before, after, rfl, hcode⟩ := h
  exact ⟨before, after ++ b, by simp, hcode.append b⟩

theorem Exposes.prepend (h : Exposes b) (a : Layout) : Exposes (a ++ b) := by
  obtain ⟨before, after, rfl, hcode⟩ := h
  exact ⟨a ++ before, after, by simp, hcode⟩

theorem escapes_of_not_mem (h : .endDoc ∉ layout) : Escapes layout :=
  fun hin => absurd hin h

theorem escapes_append (ha : Escapes a) (hb : Escapes b) : Escapes (a ++ b) := by
  intro hin
  rcases List.mem_append.1 hin with hina | hinb
  · exact (ha hina).append b
  · exact (hb hinb).prepend a

theorem composes_escapes : Composes Escapes where
  nil := escapes_of_not_mem (by simp)
  text _ := escapes_of_not_mem (by simp)
  append := escapes_append
  braces h := escapes_append (escapes_append (escapes_of_not_mem (by simp)) h)
    (escapes_of_not_mem (by simp))

/-- Documentation in front of a header ends in front of code. -/
theorem escapes_doc {doc : Code} {header : Layout} (hcode : StartsCode header)
    (hheader : Escapes header) : Escapes (docLayout doc doc.layout ++ header) := by
  unfold docLayout
  split
  · exact hheader
  · exact fun _ => ⟨.beginDoc :: doc.layout, header, by simp, hcode⟩

/-- The page of a layout that exposes code has a line that is no comment. -/
theorem Exposes.hasLine (h : Exposes layout) (p : Page) :
    ∃ c, c ≠ '/' ∧ (p.write layout).HasLine c := by
  obtain ⟨before, after, rfl, s, rest, c, cs, rfl, hs, hfeed, hslash⟩ := h
  refine ⟨c, hslash, ?_⟩
  rw [Page.write_append, Page.write_cons, Page.write_cons]
  exact (Page.hasLine_emit hs hfeed (p.write before).last_endDoc rfl).write rest

end Layout

/-! ## Headers -/

theorem attributes_startCode (attributes : List Attribute) :
    attributesLayout attributes = [] ∨ StartsCode (attributesLayout attributes) := by
  cases attributes with
  | nil => exact .inl rfl
  | cons a rest =>
    obtain ⟨cs, hcs⟩ := a.exists_text
    exact .inr ⟨a.text, _, '@', cs, rfl, hcs, by decide, by decide⟩

theorem modifiers_startCode (modifiers implied : ModifierSet) :
    modifiersLayout modifiers implied = [] ∨ StartsCode (modifiersLayout modifiers implied) := by
  unfold modifiersLayout
  cases modifiers.toList.filter fun m => m ∉ implied with
  | nil => exact .inl rfl
  | cons m rest =>
    have hfirst : ∃ c cs, m.keyword.toList = c :: cs ∧ c ≠ '\n' ∧ c ≠ '/' := by
      cases m
      all_goals exact ⟨_, _, rfl, by decide, by decide⟩
    obtain ⟨c, cs, hkeyword⟩ := hfirst
    exact .inr ⟨m.keyword, _, c, cs, rfl, hkeyword⟩

/-- A signature starts with the name. -/
theorem Signature.layout_startsCode (signature : Signature) {name : String}
    (hname : StartsCode [.text name]) (emptyParentheses withTypes : Bool) :
    StartsCode (signature.layout (some name) emptyParentheses withTypes) := by
  obtain ⟨typeVariables, parameters, returns, isThrowing, isAsync, isFailable⟩ := signature
  unfold Signature.layout
  simp only [Option.elim, List.append_assoc]
  exact hname.append _

/-- The header of a function starts with an attribute, a modifier, the word `func` or, for the kinds
without that word, with their reserved name. -/
theorem FunctionDecl.header_startsCode (f : FunctionDecl) (implied : ModifierSet) :
    StartsCode (f.headerLayout implied) := by
  have hnamed : StartsCode ((if f.kind.isKeywordless then [] else [.text "func "]) ++
      f.signature.layout (some (FunctionKind.printedName f.name)) (!f.kind.hidesEmptyParameters)
        (!f.kind.hidesParameterTypes)) := by
    cases hkind : f.kind.isKeywordless with
    | false =>
      -- the word `func`
      exact ⟨"func ", _, 'f', _, rfl, rfl, by decide, by decide⟩
    | true =>
      -- Without the word the name comes first, and the kind fixes it.
      have hfirst : ∃ c cs, (FunctionKind.printedName f.name).toList = c :: cs ∧ c ≠ '\n' ∧
          c ≠ '/' := by
        obtain ⟨kind, hreserved⟩ := FunctionKind.exists_reserved hkind
        generalize f.name = name at hreserved ⊢
        cases kind
        all_goals
          cases hreserved
        all_goals exact ⟨_, _, rfl, by decide, by decide⟩
      obtain ⟨c, cs, hname⟩ := hfirst
      exact f.signature.layout_startsCode ⟨_, [], c, cs, rfl, hname⟩ _ _
  unfold FunctionDecl.headerLayout
  rw [List.append_assoc, List.append_assoc]
  exact (hnamed.prepend (modifiers_startCode _ _)).prepend (attributes_startCode _)

/-- The header of a type starts with an attribute, a modifier or the keyword of its kind. -/
theorem TypeDecl.header_startsCode (t : TypeDecl) (implied : ModifierSet) :
    StartsCode (t.headerLayout implied) := by
  have hkeyword : ∃ c cs, (t.kind.keyword ++ " " ++ escapeReserved t.name).toList = c :: cs ∧
      c ≠ '\n' ∧ c ≠ '/' := by
    rw [String.toList_append, String.toList_append, List.append_assoc]
    cases t.kind <;> exact ⟨_, _, rfl, by decide, by decide⟩
  obtain ⟨c, cs, hfirst⟩ := hkeyword
  have hline : StartsCode (.text (t.kind.keyword ++ " " ++ escapeReserved t.name) ::
      if t.superTypes.isEmpty then []
      else [.text ": ", .text (", ".intercalate (t.superTypes.map TypeName.text))]) :=
    ⟨_, _, c, cs, rfl, hfirst⟩
  unfold TypeDecl.headerLayout
  rw [List.append_assoc]
  exact (hline.prepend (modifiers_startCode _ _)).prepend (attributes_startCode _)

/-! ## Declarations in documentation -/

/-- Wherever documentation ends in a declaration or in a block of code, code comes after it: at the
latest the header of the declaration that it belongs to. -/
theorem escapes_at_any_depth : Composes.AtAnyDepth Escapes where
  toComposes := composes_escapes
  step _ _ hend := escapes_of_not_mem (by simpa using Ne.symm hend)
  documented_function f implied := escapes_doc (f.header_startsCode implied)
  documented_type t implied := escapes_doc (t.header_startsCode implied)

/-! ## Documentation -/

/-- The page of documentation that is not empty. -/
theorem Code.page_doc (c : Code) (hsome : c.isEmpty = false) :
    Layout.page (docLayout c c.layout) =
      (({ inDoc := true } : Page).write c.layout).step .endDoc := by
  rw [docLayout, if_neg (by simp [hsome]), Layout.page, Page.write_append]
  rfl

/-- The page of documentation is left at the start of a line, outside of documentation. -/
theorem Code.page_doc_ended (c : Code) :
    (Layout.page (docLayout c c.layout)).last.text = [] ∧
      (Layout.page (docLayout c c.layout)).inDoc = false := by
  cases hempty : c.isEmpty with
  | true => simp [docLayout, hempty, Layout.page]
  | false =>
    rw [c.page_doc hempty]
    exact ⟨Page.last_endDoc _, rfl⟩

/-- The lines of documentation are comments exactly if no documentation ends inside of it. -/
theorem Code.done_commented_iff (c : Code) :
    (∀ l ∈ (Layout.page (docLayout c c.layout)).done, l.IsComment) ↔ .endDoc ∉ c.layout := by
  cases hempty : c.isEmpty with
  | true =>
    -- Empty documentation has no lines.
    obtain ⟨parts, arguments⟩ := c
    obtain rfl : parts = [] := by simpa [Code.isEmpty] using hempty
    simp [docLayout, Code.isEmpty, Layout.page, Code.layout, fill]
  | false =>
    rw [c.page_doc hempty]
    constructor
    · -- Where documentation inside ends, a line is left that starts with code.
      intro hcomments hend
      obtain ⟨first, hslash, hline⟩ := (escapes_at_any_depth.code c hend).hasLine { inDoc := true }
      obtain ⟨l, hl, cs, htext⟩ := hline.step .endDoc
      -- The line is not the last one: that one is empty.
      have hdone : l ∈ ((({ inDoc := true } : Page).write c.layout).step .endDoc).done := by
        rcases List.mem_append.1 hl with hdone | hlast
        · exact hdone
        · rw [List.mem_singleton.1 hlast, Page.last_endDoc] at htext
          cases htext
      have hmark : "///".toList <+: first :: cs := by
        rw [← htext]
        exact hcomments l hdone
      exact hslash (List.cons_prefix_cons.1 hmark).1.symm
    · -- Where none ends, every line is begun inside the comment.
      intro hend
      have hstart : Page.Commented { inDoc := true } := ⟨by simp, .inl rfl, rfl⟩
      exact (hstart.write hend).done_endDoc

/-- Documentation that is written to its end from the start of a line, within bounds or not, adds
whole lines and leaves the writer at the start of a line, outside of documentation. After their
indentation the lines all start with the mark of a comment exactly if no declaration in the block
has documentation of its own to end. -/
theorem Code.doc_commented_iff {c : Code} {w w' : Writer} (hstart : w.atLineStart = true)
    (hdoc : w.inDoc = false)
    (h : w.write (docLayout c c.layout) = (w', none) ∨
      w.writeBounded (docLayout c c.layout) = (w', none)) :
    let lines := (Layout.page (docLayout c c.layout)).done
    w'.output =
        w.output ++ String.ofList (lines.flatMap fun l => l.shown w.unit w.level ++ ['\n']) ∧
      (∀ l ∈ lines, '\n' ∉ l.text) ∧
      w'.atLineStart = true ∧ w'.inDoc = false ∧
      ((∀ l ∈ lines, l.IsComment) ↔ .endDoc ∉ c.layout) := by
  intro lines
  have hwritten : w.write (docLayout c c.layout) = (w', none) :=
    h.elim id Writer.write_of_writeBounded
  have hshows : (Layout.page (docLayout c c.layout)).Shows w w' :=
    (Page.shows_empty hstart hdoc).write hwritten
  have hlines : AreLinesFrom w.level (Layout.page (docLayout c c.layout)).lines := by
    refine areLinesFrom_write (areLinesFrom_empty w.level false) (by simp) ?_
    simpa using Writer.write_eq_none_iff.1 ⟨w', hwritten⟩
  obtain ⟨hlast, hin⟩ := c.page_doc_ended
  refine ⟨?_, ?_, hshows.atLineStart.2 hlast, hshows.inDoc.trans hin, c.done_commented_iff⟩
  · rw [← String.toList_inj, hshows.output, String.toList_append, String.toList_ofList, Page.shown]
    simp [Line.shown, hlast, lines]
  · intro l hl
    exact (hlines l (List.mem_append_left _ hl)).2

/-- A function without documentation and a text of two lines, in the documentation at level one. -/
theorem Code.doc_commented_function :
    let f : FunctionDecl := { name := "f", doc := {}, signature := {}, body := some {} }
    let c : Code := {
      parts := [.text "See\n", .slot .literal, .text "and ", .slot .string]
      arguments := [.function f, .text "a\nb"] }
    let w : Writer := { level := 1, output := "x\n" }
    let w' : Writer := { w with
      output := "x\n  /// See\n  /// func f() \x7b\n  /// \x7d\n  /// and \"a\\nb\"\n" }
    (w.atLineStart = true ∧ w.inDoc = false ∧ w.write (docLayout c c.layout) = (w', none)) ∧
      ∀ l ∈ (Layout.page (docLayout c c.layout)).done, l.IsComment := by
  intro f c w w'
  have hlayout : c.layout = [.text "See\n", .text "func ", .text "f", .text "(", .text ")",
    .text " \x7b\n", .indent, .unindent, .text "\x7d\n", .text "and ", .text "\"a\\nb\""] := rfl
  have hwritten : w.write (docLayout c c.layout) = (w', none) := by
    rw [hlayout]
    decide
  have hend : .endDoc ∉ c.layout := by
    rw [hlayout]
    simp
  obtain ⟨-, -, -, -, hcomments⟩ := Code.doc_commented_iff (c := c) rfl rfl (.inl hwritten)
  exact ⟨⟨rfl, rfl, hwritten⟩, hcomments.2 hend⟩

/-- A function with documentation of its own, in documentation. Its header is written as code. -/
theorem Code.doc_not_commented :
    let f : FunctionDecl := {
      name := "f", doc := { parts := [.text "Inner."] }, signature := {}, body := some {} }
    let c : Code := { parts := [.slot .literal], arguments := [.function f] }
    (c.Built ∧ ({} : Writer).atLineStart = true ∧ ({} : Writer).inDoc = false ∧
      ({} : Writer).write (docLayout c c.layout) =
        ({ output := "/// Inner.\nfunc f() \x7b\n\x7d\n" }, none)) ∧
      ¬ ∀ l ∈ (Layout.page (docLayout c c.layout)).done, l.IsComment := by
  intro f c
  have hadd : ({} : Code).add "%L" [.function f] = .ok c := rfl
  have hdone : (Layout.page (docLayout c c.layout)).done =
      [⟨0, "/// Inner.".toList⟩, ⟨0, "func f() \x7b".toList⟩, ⟨0, "\x7d".toList⟩] := rfl
  refine ⟨⟨.add .empty hadd, rfl, rfl, rfl⟩, ?_⟩
  rw [hdone]
  unfold Line.IsComment
  decide

end SwiftDecl
