import SwiftDecl.Proofs.Code.Filling
import SwiftDecl.Proofs.Declaration.Header
import SwiftDecl.Proofs.Document.Replay

/-!
# Rendered documents

The texts of a document are written as they are: its documentation as the lines of a comment, its
statements as the lines of the body, its default values in the header. No text is taken for a
template, so nothing in it can keep the declaration from being written.
-/

namespace SwiftDecl

open Layout

namespace Document

/-! ## Texts as they are -/

/-- A text in a literal slot is written as it is. -/
theorem literalCode_layout (s : String) : (literalCode s).layout = [.text s] := by
  have hslot := Code.layout_slot .literal (.text s) {}
  rw [Code.layout_empty, List.append_nil, Argument.placed] at hslot
  exact hslot

theorem literalCode_spelled (s : String) : (literalCode s).spelled = s := by
  rw [Code.spelled, literalCode_layout]
  simp [Layout.chars]

/-- Statements are written as they are, each with a line end. -/
theorem spells_statementsCode (statements : List String) :
    Spells (statementsCode statements).layout (String.join (statements.map (· ++ "\n"))) := by
  induction statements with
  | nil =>
    have hnone : (statementsCode []).layout = [] := Code.layout_empty
    rw [hnone]
    exact spells_nil
  | cons s rest ih =>
    -- The first slot takes the statement, and the text after it is the line end.
    have hslot : (statementsCode (s :: rest)).layout =
        (Argument.text s).placed .literal ++
          Code.layout { statementsCode rest with
            parts := .text "\n" :: (statementsCode rest).parts } :=
      Code.layout_slot .literal (.text s)
        { statementsCode rest with parts := .text "\n" :: (statementsCode rest).parts }
    have hrest := (ih.cons "\n").cons s
    rw [← String.append_assoc] at hrest
    rw [hslot, Code.layout_text, Argument.placed, List.map_cons, String.join_cons]
    exact hrest

/-! ## The parts of the text -/

/-- The lines of the documentation, without the line ends at its end. -/
def docLines (d : Document) : List String :=
  match d.doc with
  | none => []
  | some doc => if doc = "" then [] else Text.lines (dropFinalBreaks doc)

/-- The documentation as a comment: each line after the mark of comments. -/
def docText (d : Document) : String :=
  String.join (d.docLines.map fun l => (if l = "" then "///" else "/// " ++ l) ++ "\n")

/-- The lines of the statements, each that is not empty after one unit of indentation. -/
def bodyText (d : Document) (unit : String) : String :=
  String.join ((d.statements.flatMap Text.lines).map fun l =>
    (if l = "" then "" else unit ++ l) ++ "\n")

section Rendering

variable {d : Document} {f : FunctionDecl} {concise : Bool}

theorem line_of_doc (unit l : String) :
    ({ unit } : Writer).beginDoc.line l = (if l = "" then "///" else "/// " ++ l) ++ "\n" := by
  have hnone : ({ unit } : Writer).beginDoc.indentation = "" := by
    simp [Writer.indentation, Writer.beginDoc, Text.copies, String.join]
  have hdoc : ({ unit } : Writer).beginDoc.inDoc = true := rfl
  rw [Writer.line, Writer.lineStart, hnone, hdoc]
  simp

/-- At the first level a line stands after one unit. -/
theorem line_of_body {w : Writer} (hlevel : w.level = 0) (hdoc : w.inDoc = false) (l : String) :
    w.indent.line l = (if l = "" then "" else w.unit ++ l) ++ "\n" := by
  have hone : w.indent.indentation = w.unit := by
    by_cases hunit : w.unit = ""
    · simp [Writer.indentation, Writer.indent, Text.copies, hunit]
    · simp [Writer.indentation, Writer.indent, Text.copies, hlevel, hunit]
  have hout : w.indent.inDoc = false := hdoc
  rw [Writer.line, Writer.lineStart, hone, hout]
  simp

/-- The documentation is written in a new writer as a comment. -/
theorem writes_doc (d : Document) (unit : String) :
    ({ unit } : Writer).Writes (docLayout d.docCode d.docCode.layout)
      { unit, output := d.docText } := by
  unfold docCode docText docLines docLayout
  cases d.doc with
  | none => exact Writer.writes_nil _
  | some doc =>
    by_cases hempty : doc = ""
    · simp only [hempty, ↓reduceIte]
      exact Writer.writes_nil _
    · have hspells : Spells (statementsCode [dropFinalBreaks doc]).layout
          (dropFinalBreaks doc ++ "\n") := by
        simpa using spells_statementsCode [dropFinalBreaks doc]
      have hwrites := hspells.writes_doc (w := { unit }) rfl rfl rfl
      have hsome : (statementsCode [dropFinalBreaks doc]).isEmpty = false := rfl
      simp only [hempty, ↓reduceIte, hsome, Bool.false_eq_true]
      rw [funext (line_of_doc unit), String.empty_append] at hwrites
      exact hwrites

/-- The statements of the declaration are those of the document, as they are. -/
theorem Describes.spells_statements (h : d.Describes f)
    (habstract : d.isAbstract = true → d.statements = []) :
    Spells f.statements (String.join (d.statements.map (· ++ "\n"))) := by
  unfold FunctionDecl.statements
  rw [h.localTypes, h.body, TypeDecl.localLayout, List.nil_append]
  cases hbody : d.isAbstract with
  | true =>
    rw [habstract hbody, if_pos rfl, Code.bodyLayout]
    exact spells_nil
  | false =>
    rw [if_neg Bool.false_ne_true, Code.bodyLayout]
    exact spells_statementsCode d.statements

theorem Describes.isAbstract_eq (h : d.Describes f) : f.isAbstract = d.isAbstract := by
  rw [FunctionDecl.isAbstract, h.body]
  cases d.isAbstract <;> rfl

/-- A default value of the document is written as it is, at the end of its parameter. -/
theorem spelled_of_default {p : Parameter} {e : ParameterEntry} (h : p.IsReadFrom e) {s : String}
    (hs : e.default = some s) :
    p.spelled true = Parameter.spelled { p with default := none } true ++ " = " ++ s := by
  have hdefault : p.default = some (literalCode s) := by rw [h.default, hs, Option.map_some]
  unfold Parameter.spelled
  rw [hdefault]
  simp [Code.defaultText, literalCode_spelled, Parameter.labelText, String.append_assoc]

theorem hasTextDefault_of_isReadFrom {p : Parameter} {e : ParameterEntry} (h : p.IsReadFrom e) :
    p.HasTextDefault := by
  intro value hvalue
  rw [h.default, Option.map_eq_some_iff] at hvalue
  obtain ⟨s, -, rfl⟩ := hvalue
  rw [literalCode_layout]
  exact onlyTexts_text s

theorem Describes.hasTextDefaults (h : d.Describes f) :
    ∀ p ∈ f.signature.parameters, p.HasTextDefault := by
  intro p hp
  obtain ⟨e, -, he⟩ := exists_of_mem_right h.parameters hp
  exact hasTextDefault_of_isReadFrom he

/-- A getter without anything before its header is written as its statements in the short form. -/
theorem writes_short (h : d.Describes f) (habstract : d.isAbstract = true → d.statements = [])
    (hshort : f.IsShort concise) (unit : String) (implied : ModifierSet) :
    ∃ w, ({ unit } : Writer).Writes (f.layout implied concise) w ∧ w.level = 0 ∧
      w.output = String.join (d.statements.map (· ++ "\n")) := by
  rw [FunctionDecl.layout_of_short hshort]
  obtain ⟨atLineStart, hemit⟩ := Writer.exists_emit_eq (w := { unit }) rfl rfl
    (String.join (d.statements.map (· ++ "\n")))
  have hwrites := (h.spells_statements habstract).writes (w := { unit }) rfl
  rw [hemit] at hwrites
  exact ⟨_, hwrites, rfl, String.empty_append⟩

/-- All other declarations are written with their documentation, their header and, unless they are
abstract, their statements in braces. -/
theorem writes_full (h : d.Describes f) (habstract : d.isAbstract = true → d.statements = [])
    (hfull : ¬ f.IsShort concise) (unit : String) (implied : ModifierSet) :
    ∃ w, ({ unit } : Writer).Writes (f.layout implied concise) w ∧ w.level = 0 ∧
      w.output = d.docText ++ f.header implied ++
        (if d.isAbstract then "" else " \x7b\n" ++ d.bodyText unit ++ "\x7d\n") := by
  -- The comment ends its line, and the header is written at level zero: both come out as they are.
  obtain ⟨atLineStart, hemit⟩ := Writer.exists_emit_eq (w := { unit, output := d.docText }) rfl rfl
    (f.header implied)
  have hheader := (FunctionDecl.spells_header h.hasTextDefaults implied).writes
    (w := { unit, output := d.docText }) rfl
  rw [hemit] at hheader
  have hfront := (writes_doc d unit).append hheader
  rw [FunctionDecl.layout_of_full hfull, h.doc, h.isAbstract_eq]
  cases hbody : d.isAbstract with
  | true =>
    -- An abstract declaration ends with its header.
    rw [if_pos rfl, List.append_nil]
    exact ⟨_, hfront, rfl, by simp⟩
  | false =>
    rw [if_neg Bool.false_ne_true]
    have hblock := (h.spells_statements habstract).writes_block
      (w := { unit, output := d.docText ++ f.header implied, atLineStart }) rfl rfl
    refine ⟨_, hfront.append hblock, rfl, ?_⟩
    rw [funext (line_of_body (w := { unit, output := d.docText ++ f.header implied, atLineStart })
      rfl rfl)]
    simp [bodyText, String.append_assoc]

/-! ## Rendered documents -/

/-- A declaration of a document can be written in a new writer with any unit of indentation, and
leaves it at level zero. Unless it is a getter in the short form, what is written is the
documentation as the lines of a comment, the header, and the statements of the document in braces,
each of their lines after one unit if it is not empty. Each default value stands as it is at the end
of its parameter, in the header wherever that shows types. -/
theorem declaration_rendered {label : String} (h : d.declaration label = .ok f) (unit : String)
    (implied : ModifierSet) (concise : Bool) :
    ∃ w, ({ unit } : Writer).Writes (f.layout implied concise) w ∧ w.level = 0 ∧
      (f.IsShort concise → w.output = String.join (d.statements.map (· ++ "\n"))) ∧
      (¬ f.IsShort concise →
        w.output = d.docText ++ f.header implied ++
          (if d.isAbstract then "" else " \x7b\n" ++ d.bodyText unit ++ "\x7d\n")) ∧
      (f.kind.hidesParameterTypes = false → d.parameters ≠ [] →
        ∃ before after, f.header implied =
          before ++ Parameter.spelledAll f.signature.parameters true ++ after) ∧
      List.Forall₂ (fun e p => ∀ s, e.default = some s →
          p.spelled true = Parameter.spelled { p with default := none } true ++ " = " ++ s)
        d.parameters f.signature.parameters := by
  obtain ⟨⟨-, hgrammatical⟩, hdescribes⟩ := declaration_eq_ok_iff.1 h
  have habstract := hgrammatical.abstract_statements
  have hdefaults : List.Forall₂ (fun e p => ∀ s, e.default = some s →
      p.spelled true = Parameter.spelled { p with default := none } true ++ " = " ++ s)
      d.parameters f.signature.parameters :=
    hdescribes.parameters.imp fun e p he s hs => spelled_of_default he hs
  -- The parameters are written as a whole, between what comes before and after them.
  have hshown (hkind : f.kind.hidesParameterTypes = false) (hsome : d.parameters ≠ []) :
      ∃ before after, f.header implied =
        before ++ Parameter.spelledAll f.signature.parameters true ++ after := by
    refine FunctionDecl.exists_header_eq hkind fun hnone => hsome ?_
    have hlength := hdescribes.parameters.length_eq
    rw [hnone] at hlength
    exact List.length_eq_zero_iff.1 hlength
  by_cases hshort : f.IsShort concise
  · obtain ⟨w, hwrites, hlevel, houtput⟩ := writes_short hdescribes habstract hshort unit implied
    exact ⟨w, hwrites, hlevel, fun _ => houtput, fun hfull => absurd hshort hfull, hshown,
      hdefaults⟩
  · obtain ⟨w, hwrites, hlevel, houtput⟩ := writes_full hdescribes habstract hshort unit implied
    exact ⟨w, hwrites, hlevel, fun h => absurd h hshort, fun _ => houtput, hshown, hdefaults⟩

/-- A document with texts that look like templates and hold braces, quotes and line ends. -/
def likeTemplate : Document where
  name := some "log"
  doc := some "100%\n\n%Q\n"
  parameters := [{ name := "line", type := "Int", default := some "%L" }]
  statements := ["print(\"%T\")\n\nreturn \x7b"]

theorem declaration_rendered_likeTemplate :
    ∃ f w, likeTemplate.declaration "log.yml" = .ok f ∧
      ({ unit := "\t" } : Writer).Writes (f.layout .internal true) w ∧
      w.output = "/// 100%\n///\n/// %Q\nfunc log(line: Int = %L) \x7b\n" ++
        "\tprint(\"%T\")\n\n\treturn \x7b\n\x7d\n" := by
  have hdeclared : likeTemplate.declaration "log.yml" = .ok {
      name := "log"
      doc := statementsCode ["100%\n\n%Q"]
      signature := { parameters :=
        [{ name := "line", type := .named "Int", default := some (literalCode "%L") }] }
      body := some (statementsCode likeTemplate.statements) } := by rfl
  obtain ⟨w, hwrites, -, -, hfull, -, -⟩ :=
    declaration_rendered hdeclared "\t" ModifierSet.internal true
  refine ⟨_, w, hdeclared, hwrites, ?_⟩
  rw [hfull fun hshort => absurd hshort.1 (by decide)]
  rfl

end Rendering

end Document

end SwiftDecl
