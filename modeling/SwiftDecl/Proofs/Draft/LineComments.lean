import SwiftDecl.Proofs.Code.Framing
import SwiftDecl.Proofs.Declaration.Header
import SwiftDecl.Proofs.Draft.Calls

/-!
# Line comments

A line comment is added to the body of a draft as a template with the mark of comments in front. The
mark stands on the first line only: the text that is filled in is written line by line, and each
line after the first is a comment if it brings a mark of its own, and code if it does not
(`FunctionDraft.addComment_lines_iff`).
-/

namespace SwiftDecl

open Layout

/-! ## Lines -/

namespace Text

/-- The line is a line comment. -/
def IsLineComment (l : String) : Prop :=
  "//".toList <+: l.toList

instance (l : String) : Decidable (IsLineComment l) :=
  inferInstanceAs (Decidable ("//".toList <+: l.toList))

/-- What stands before a text without the separator goes to the first part of the text. -/
theorem splitOn_append_of_not_mem {x : Char} {front : List Char} (h : x ∉ front) (cs : List Char) :
    (front ++ cs).splitOn x = (cs.splitOn x).modifyHead (front ++ ·) := by
  induction front with
  | nil =>
    have hid : (([] : List Char) ++ ·) = id := rfl
    rw [hid, List.modifyHead_id]
    rfl
  | cons c front ih =>
    rw [List.mem_cons, not_or] at h
    rw [List.cons_append, List.splitOn, List.splitOnP_cons_eq_if_modifyHead,
      if_neg (by simpa using Ne.symm h.1)]
    have hrest := ih h.2
    rw [List.splitOn] at hrest
    rw [hrest, List.modifyHead_modifyHead]
    rfl

/-- A text within the first line goes to the first line. -/
theorem exists_lines_append {s : String} (h : '\n' ∉ s.toList) (t : String) :
    ∃ first rest, lines t = first :: rest ∧ lines (s ++ t) = (s ++ first) :: rest := by
  obtain ⟨first, rest, hparts⟩ := List.exists_cons_of_ne_nil (List.splitOn_ne_nil '\n' t.toList)
  refine ⟨String.ofList first, rest.map String.ofList, by rw [lines, hparts, List.map_cons], ?_⟩
  rw [lines, String.toList_append, splitOn_append_of_not_mem h, hparts, List.modifyHead_cons,
    List.map_cons, String.ofList_append, String.ofList_toList]

/-- A mark in front of a text makes comments of all its lines if each but the first is one. -/
theorem lines_marked_iff (t : String) :
    (∀ l ∈ lines ("// " ++ t), IsLineComment l) ↔ ∀ l ∈ (lines t).tail, IsLineComment l := by
  obtain ⟨first, rest, hlines, hmarked⟩ := exists_lines_append (s := "// ") (by decide) t
  have hfirst : IsLineComment ("// " ++ first) :=
    ⟨' ' :: first.toList, (String.toList_append (s := "// ")).symm⟩
  rw [hmarked, hlines, List.forall_mem_cons, List.tail_cons]
  exact and_iff_right hfirst

end Text

namespace Writer

/-- After the indentation of the writer the text is a line comment. -/
def ShowsComment (w : Writer) (written : String) : Prop :=
  (w.indentation ++ "//").toList <+: written.toList

/-- Outside of documentation a line shows as a comment exactly if it is one. -/
theorem showsComment_line_iff {w : Writer} (hdoc : w.inDoc = false) (l : String) :
    w.ShowsComment (w.line l) ↔ Text.IsLineComment l := by
  have hfeed : "\n".toList = ['\n'] := rfl
  unfold ShowsComment Text.IsLineComment line lineStart
  by_cases hl : l = ""
  · -- An empty line is not indented, so no mark follows an indentation.
    rw [if_pos hl, hl, hdoc]
    constructor
    · intro hprefix
      have hin : '/' ∈ "\n".toList := hprefix.subset (by simp)
      exact absurd hin (by decide)
    · intro hprefix
      exact absurd hprefix (by decide)
  · rw [if_neg hl, hdoc, if_neg Bool.false_ne_true, String.append_empty, String.toList_append,
      String.toList_append, String.toList_append, List.append_assoc, List.prefix_append_right_inj,
      hfeed, List.prefix_concat_iff]
    refine or_iff_right fun hsame => ?_
    have hin : '\n' ∈ "//".toList := by simp [hsame]
    exact absurd hin (by decide)

end Writer

/-! ## Templates -/

namespace Template

/-- The template does not move the indentation. -/
def StaysLevel (format : String) : Prop :=
  ∀ t ∈ tokens format, t ≠ .directive .indent ∧ t ≠ .directive .unindent

instance (format : String) : Decidable (StaysLevel format) :=
  inferInstanceAs
    (Decidable (∀ t ∈ tokens format, t ≠ .directive .indent ∧ t ≠ .directive .unindent))

/-- The directives of such a template are texts. -/
theorem StaysLevel.onlyTexts_directive {format : String} (h : StaysLevel format) {d : Directive}
    (hd : .directive d ∈ tokens format) : OnlyTexts d.layout := by
  cases d with
  | percent => exact onlyTexts_text "%"
  | space => exact onlyTexts_text " "
  | indent => exact absurd rfl (h _ hd).1
  | unindent => exact absurd rfl (h _ hd).2

end Template

namespace Code

variable {format : String} {arguments : List Argument} {added : Code}

/-- The text of a line comment is the mark and the text that its template is filled to. -/
theorem spells_lineComment (hformat : Template.StaysLevel format)
    (harguments : ∀ a ∈ arguments, a.IsTextual)
    (h : Template.instantiate ("// " ++ format ++ "\n") arguments = .ok added) :
    ∃ inner comment, ofTemplate format arguments = .ok inner ∧ inner.text = .ok comment ∧
      Spells added.layout ("// " ++ comment ++ "\n") := by
  have hmark : "// " = Template.escapePercent "// " := by decide
  have hending : Template.IsEnding "\n".toList :=
    ⟨by decide, '\n', [], rfl, by decide, rfl, rfl⟩
  rw [hmark] at h
  obtain ⟨inner, hinner, hchars⟩ := Template.instantiate_framed hending h
  have htext := Template.instantiate_onlyTexts
    (fun d hd => hformat.onlyTexts_directive hd) harguments hinner
  refine ⟨inner, String.ofList (chars inner.layout), hinner, htext.text_eq, ?_, ?_⟩
  · refine Template.instantiate_onlyTexts (fun d hd => ?_) harguments h
    rcases Template.mem_tokens_framed hending hd with rfl | hin
    · exact onlyTexts_text "%"
    · exact hformat.onlyTexts_directive hin
  · simp [hchars]

end Code

/-! ## Functions -/

namespace FunctionDecl

variable {f : FunctionDecl}

instance (f : FunctionDecl) (concise : Bool) : Decidable (f.IsShort concise) :=
  inferInstanceAs (Decidable (f.kind = .getter ∧ concise = true ∧ f.isPlain = true))

/-- What a function with a body writes before the code of its body. -/
def beforeBody (f : FunctionDecl) (implied : ModifierSet) (concise : Bool) : Layout :=
  (if f.IsShort concise then []
    else docLayout f.doc f.doc.layout ++ f.headerLayout implied ++ [.text " \x7b\n", .indent]) ++
  TypeDecl.localLayout f.localTypes

/-- What a function with a body writes after the code of its body. -/
def afterBody (f : FunctionDecl) (concise : Bool) : Layout :=
  if f.IsShort concise then [] else [.unindent, .text "\x7d\n"]

/-- The code of the body is written in one piece. -/
theorem layout_of_body {body : Code} (h : f.body = some body) (implied : ModifierSet)
    (concise : Bool) :
    f.layout implied concise =
      f.beforeBody implied concise ++ body.layout ++ f.afterBody concise := by
  have hstatements : f.statements = TypeDecl.localLayout f.localTypes ++ body.layout := by
    rw [statements, h, Code.bodyLayout]
  unfold beforeBody afterBody
  by_cases hshort : f.IsShort concise
  · rw [layout_of_short hshort, hstatements, if_pos hshort, if_pos hshort, List.nil_append,
      List.append_nil]
  · have hbody : f.isAbstract = false := by rw [isAbstract, h]; rfl
    rw [layout_of_full hshort, hstatements, hbody, if_neg hshort, if_neg hshort]
    simp [List.append_assoc]

end FunctionDecl

namespace FunctionDraft

variable {d d' : FunctionDraft} {format : String} {arguments : List Argument}

/-- A draft that is not abstract is written around its body. -/
theorem layout_toFunction (h : d.isAbstract = false) (implied : ModifierSet) (concise : Bool) :
    d.toFunction.layout implied concise =
      d.toFunction.beforeBody implied concise ++ d.body.layout ++
        d.toFunction.afterBody concise := by
  refine FunctionDecl.layout_of_body ?_ implied concise
  rw [toFunction, h]
  rfl

/-- An accepted line comment is written at the end of the body, line by line, if the code before it
ends a line. The first line is a comment. All of them are exactly if each line after the first
brings the mark of comments with it. -/
theorem addComment_lines_iff (hbody : d.body.Aligned) (hformat : Template.StaysLevel format)
    (harguments : ∀ a ∈ arguments, a.IsTextual) (h : d.addComment format arguments = .ok d')
    (implied : ModifierSet) (concise : Bool) :
    let before := d.toFunction.beforeBody implied concise
    let after := d.toFunction.afterBody concise
    d.toFunction.layout implied concise = before ++ d.body.layout ++ after ∧
      d'.toFunction.layout implied concise = before ++ d'.body.layout ++ after ∧
      ∃ inner comment, Code.ofTemplate format arguments = .ok inner ∧ inner.text = .ok comment ∧
        ∀ w m : Writer, w.Writes (before ++ d.body.layout) m → m.atLineStart = true →
          m.inDoc = false → Text.copiesFault? m.level m.unit = none →
            let written := (Text.lines ("// " ++ comment)).map m.line
            w.Writes (before ++ d'.body.layout)
                { m with output := m.output ++ String.join written } ∧
              ((∀ l ∈ written, m.ShowsComment l) ↔
                ∀ l ∈ (Text.lines comment).tail, Text.IsLineComment l) := by
  intro before after
  obtain ⟨hhas, body, hadd, rfl⟩ := addComment_eq_ok_iff.1 h
  obtain ⟨added, hadded, rfl⟩ := Code.add_eq_ok_iff.1 hadd
  obtain ⟨inner, comment, hinner, htext, hspells⟩ :=
    Code.spells_lineComment hformat harguments hadded
  have hlayout := layout_toFunction (d := { d with body := d.body ++ added }) hhas implied concise
  refine ⟨layout_toFunction hhas implied concise, hlayout, inner, comment, hinner, htext, ?_⟩
  intro w m hm hstart hdoc hbounds written
  constructor
  · have hlines := hspells.writes hbounds
    rw [Writer.emit_ended_text _ hstart] at hlines
    rw [hbody.layout_append, ← List.append_assoc]
    exact hm.append hlines
  · rw [List.forall_mem_map, ← Text.lines_marked_iff]
    exact forall₂_congr fun l _ => Writer.showsComment_line_iff hdoc l

/-- A text of two lines that brings the second mark with it, a quoted line end, a space that is
asked for and a percent sign. -/
theorem addComment_lines_marked :
    let arguments : List Argument := [.text "first\n// second", .text "a\nb"]
    let m : Writer := { output := "func f() \x7b\n", level := 1 }
    let written := ["  // first\n", "  // second: \"a\\nb\"//%\n"]
    ∃ d', (Code.Aligned {} ∧ Template.StaysLevel "%L:%W%S//%%" ∧ (∀ a ∈ arguments, a.IsTextual) ∧
        ({ name := "f" } : FunctionDraft).addComment "%L:%W%S//%%" arguments = .ok d') ∧
      ({} : Writer).Writes
        (({ name := "f" } : FunctionDraft).toFunction.beforeBody .internal false ++ d'.body.layout)
        { m with output := m.output ++ String.join written } ∧
      ∀ l ∈ written, m.ShowsComment l := by
  -- The lines are evaluated before the names are introduced, on closed terms.
  have hlines : (Text.lines "// first\n// second: \"a\\nb\"//%").map
      ({ output := "func f() \x7b\n", level := 1 } : Writer).line =
      ["  // first\n", "  // second: \"a\\nb\"//%\n"] := by decide +kernel
  intro arguments m written
  have hformat : Template.StaysLevel "%L:%W%S//%%" := by decide
  have htextual : ∀ a ∈ arguments, a.IsTextual := by simp [arguments, Argument.IsTextual]
  have hadd : ({ name := "f" } : FunctionDraft).addComment "%L:%W%S//%%" arguments =
      .ok { name := "f", body := {
        parts := [.text "// ", .slot .literal, .text ":", .directive .space, .slot .string,
          .text "//", .directive .percent, .text "\n"]
        arguments } } := rfl
  obtain ⟨-, -, inner, comment, hinner, htext, hwritten⟩ :=
    addComment_lines_iff Code.aligned_empty hformat htextual hadd .internal false
  -- what the template is filled to
  have hcomment : comment = "first\n// second: \"a\\nb\"//%" := by
    have hfilled : inner.text = .ok "first\n// second: \"a\\nb\"//%" := by
      cases hinner
      decide +kernel
    exact Except.ok.inj (htext.symm.trans hfilled)
  -- the opening line, behind which the comment stands one level deep
  have hbefore : ({} : Writer).Writes
      (({ name := "f" } : FunctionDraft).toFunction.beforeBody .internal false ++
        Code.layout {}) m := ⟨rfl, rfl⟩
  obtain ⟨houtput, hcomments⟩ := hwritten {} m hbefore rfl rfl rfl
  have hshown : (Text.lines ("// " ++ comment)).map m.line = written := by
    rw [hcomment]
    exact hlines
  rw [hshown] at houtput hcomments
  rw [hcomment] at hcomments
  exact ⟨_, ⟨Code.aligned_empty, hformat, htextual, hadd⟩, houtput, hcomments.2 (by decide)⟩

/-- A line end in a line comment goes on with code. -/
theorem addComment_leaks_line :
    ¬ ∀ (d d' : FunctionDraft) (format : String) (texts : List String) (w m m' : Writer)
        (written : String),
      d.body.Aligned → Template.StaysLevel format →
        d.addComment format (texts.map .text) = .ok d' →
          w.Writes (d.toFunction.beforeBody .internal false ++ d.body.layout) m →
            m.atLineStart = true →
              w.Writes (d'.toFunction.beforeBody .internal false ++ d'.body.layout) m' →
                m'.output = m.output ++ written →
                  ∀ l ∈ (Text.lines written).dropLast, m.ShowsComment l := by
  intro h
  have hadd : ({ name := "f" } : FunctionDraft).addComment "a\nb" [] =
      .ok { name := "f", body := Code.ofParts [.text "// a\nb\n"] } := rfl
  let m : Writer := { output := "func f() \x7b\n", level := 1 }
  have hleaked := h { name := "f" } _ "a\nb" [] {} m
    { m with output := m.output ++ "  // a\n  b\n" } "  // a\n  b\n" rfl (by decide) hadd ⟨rfl, rfl⟩
    rfl ⟨rfl, rfl⟩ rfl "  b" (by decide)
  revert hleaked
  unfold Writer.ShowsComment
  decide

end FunctionDraft

end SwiftDecl
