import SwiftDecl.Proofs.Declaration.Comments
import SwiftDecl.Proofs.Declaration.Restoring
import SwiftDecl.Proofs.Outcome

/-!
# Members in their type

A type is its documentation, its header and its members in braces. A member that is written alone
and comes back to level zero is written in its type as the same lines, each that is not empty with
one more unit before it (`FunctionDecl.inType`), and the members stand with an empty line between
them (`TypeDecl.text_of_members`).

Two things make a member independent of what was written before it: all documentation that a
declaration begins it also ends, at whatever depth (`Layout.leavesDoc_at_any_depth`), and after each
member a line starts.
-/

namespace SwiftDecl

open Layout

/-! ## Documentation that is begun is ended -/

namespace Layout

/-- A writer that is outside of documentation before the layout is so after it. -/
def LeavesDoc (layout : Layout) : Prop :=
  layout.foldl Step.inDocAfter false = false

variable {a b : Layout}

theorem leavesDoc_append (ha : LeavesDoc a) (hb : LeavesDoc b) : LeavesDoc (a ++ b) := by
  unfold LeavesDoc at ha hb ⊢
  rw [List.foldl_append, ha, hb]

/-- The end of documentation leaves it, whatever stands before. -/
theorem leavesDoc_of_end (a : Layout) : LeavesDoc (a ++ [.endDoc]) := by
  unfold LeavesDoc
  rw [List.foldl_append]
  rfl

theorem leavesDoc_doc (c : Code) : LeavesDoc (docLayout c c.layout) := by
  unfold docLayout
  split
  · rfl
  · exact leavesDoc_of_end (.beginDoc :: c.layout)

theorem composes_leavesDoc : Composes LeavesDoc where
  nil := rfl
  text _ := rfl
  append := leavesDoc_append
  braces h := leavesDoc_append (leavesDoc_append rfl h) rfl

/-- Blocks of code, functions and types leave documentation as they find it. -/
theorem leavesDoc_at_any_depth : Composes.AtAnyDepth LeavesDoc where
  toComposes := composes_leavesDoc
  step s hbegin hend := by
    cases s with
    | beginDoc => exact absurd rfl hbegin
    | endDoc => exact absurd rfl hend
    | _ => rfl
  documented_function f _ h := leavesDoc_append (leavesDoc_doc f.doc) h
  documented_type t _ h := leavesDoc_append (leavesDoc_doc t.doc) h

end Layout

/-! ## Lines one level deeper -/

/-- Lines that are written one level deeper are the text of the lines with one more unit before each
that is not empty. -/
theorem Layout.linesText_succ {unit : String} (hunit : '\n' ∉ unit.toList) {level : Int}
    (hlevel : 0 ≤ level) {lines : List Line} (hlines : AreLinesFrom level lines) :
    linesText unit (level + 1) lines = Text.deepened unit (linesText unit level lines) := by
  rw [linesText, linesText, Text.deepened, String.toList_ofList]
  cases hsome : lines with
  | nil => rfl
  | cons first rest =>
    rw [← hsome]
    -- No line has a line end in it, so taking the text apart gives the lines again.
    have hone : ∀ l ∈ lines.map (Line.shown unit level), '\n' ∉ l := by
      intro shown hshown
      rcases List.mem_map.1 hshown with ⟨l, hl, rfl⟩
      unfold Line.shown
      split
      · simp
      · rw [List.mem_append, not_or]
        exact ⟨fun hmem => hunit (Text.mem_copies hmem), (hlines l hl).2⟩
    rw [List.splitOn_intercalate '\n' hone (by simp [hsome]), List.map_map]
    congr 2
    refine List.map_congr_left fun l hl => ?_
    show l.shown unit (level + 1) =
      if l.shown unit level = [] then [] else unit.toList ++ l.shown unit level
    -- An empty line gets no unit at either level.
    by_cases htext : l.text = []
    · simp [Line.shown, htext]
    · have hshown : l.shown unit level ≠ [] := by simp [Line.shown, htext]
      rw [if_neg hshown, Line.shown_succ htext ((hlines l hl).1 hlevel)]

/-! ## Members -/

/-- The text of a layout is what a new writer has written when it comes to the end. -/
theorem Layout.text_eq_ok_iff {layout : Layout} {s : String} :
    Layout.text layout = .ok s ↔ ∃ w, ({} : Writer).write layout = (w, none) ∧ w.output = s := by
  unfold Layout.text
  split <;> simp_all

/-- In a new writer the layout is written to its end, and level zero is left. -/
def Layout.EndsAtZero (layout : Layout) : Prop :=
  ∃ w, ({} : Writer).write layout = (w, none) ∧ w.level = 0

/-- A function as a member of a type, from its text outside of any type: one unit stands before each
line that is not empty, and the line of a function without a body is ended. -/
def FunctionDecl.inType (f : FunctionDecl) (text : String) : String :=
  Text.deepened "  " text ++ if f.isAbstract then "\n" else ""

/-- The writer is in a type, where a member can start. -/
structure Writer.AtMember (w : Writer) : Prop where
  unit : w.unit = "  "
  level : w.level = 1
  atLineStart : w.atLineStart = true
  inDoc : w.inDoc = false

namespace Writer

variable {w w' : Writer} {front : Layout} {last : String}

/-- After a line end a line starts. -/
theorem atLineStart_of_line_end (h : w.write (front ++ [.text (last ++ "\n")]) = (w', none)) :
    w'.atLineStart = true := by
  rcases write_append_eq_none_iff.1 h with ⟨m, -, hlast⟩
  cases hlast
  rw [emit_append]
  simp [emit, put]

/-- What ends with a line end is written so. -/
theorem exists_output_of_line_end (hstart : w.atLineStart = true)
    (h : w.write (front ++ [.text (last ++ "\n")]) = (w', none)) :
    ∃ body, w'.output = w.output ++ (body ++ "\n") := by
  rcases write_append_eq_none_iff.1 h with ⟨m, hm, hlast⟩
  have hbefore : w.write (front ++ [.text last]) = (m.emit last, none) :=
    write_append_eq_none_iff.2 ⟨m, hm, rfl⟩
  have hshown := ((Page.shows_start hstart).write hbefore).output_eq
  generalize Layout.linesText _ _ _ = text at hshown
  cases hlast
  rw [emit_append]
  refine ⟨text ++ if (m.emit last).inDoc && (m.emit last).atLineStart then
    (m.emit last).indentation ++ "///" else "", ?_⟩
  show ((m.emit last).put '\n').output = _
  rw [put, if_pos rfl, hshown]
  split <;> simp [← String.toList_inj]

end Writer

namespace FunctionDecl

variable {f : FunctionDecl}

/-- What is written for a member. -/
def memberLayout (f : FunctionDecl) : Layout :=
  f.layout .internal false ++ if f.isAbstract then [.text "\n"] else []

/-- A member ends its line: with the brace after its body, or without a body. -/
theorem exists_memberLayout_eq (f : FunctionDecl) :
    ∃ front last, f.memberLayout = front ++ [.text (last ++ "\n")] := by
  unfold memberLayout
  rw [layout_of_full f.not_isShort]
  cases f.isAbstract with
  | true => exact ⟨_, "", rfl⟩
  | false =>
    refine ⟨docLayout f.doc f.doc.layout ++ f.headerLayout .internal ++
      ([.text " \x7b\n", .indent] ++ f.statements ++ [.unindent]), "\x7d", ?_⟩
    simp

/-- A member leaves documentation as it finds it. -/
theorem leavesDoc_member (f : FunctionDecl) : LeavesDoc f.memberLayout :=
  leavesDoc_append (leavesDoc_at_any_depth.function f .internal false)
    (composes_leavesDoc.optional (composes_leavesDoc.text "\n"))

/-- A member is written in its type as it is written alone, one level deeper. The next member can
start after it. -/
theorem write_member (heven : EndsAtZero (f.layout .internal false)) {s : String}
    (htext : f.text = .ok s) {w : Writer} (hw : w.AtMember) :
    ∃ w', w.write f.memberLayout = (w', none) ∧ w'.AtMember ∧
      w'.output = w.output ++ f.inType s := by
  rcases heven with ⟨c, hc, hzero⟩
  -- The text alone is what a new writer has at the end.
  have hs : s = c.output := by
    rcases text_eq_ok_iff.1 htext with ⟨w, hw, rfl⟩
    cases hw.symm.trans hc
    rfl
  -- What fits level zero fits level one, and is the same lines there.
  have hfits : Layout.Fits w.level (f.layout .internal false) :=
    fits_above (Writer.write_eq_none_iff.1 ⟨c, hc⟩) (by simp [hw.level])
  rcases Writer.write_eq_none_iff.2 hfits with ⟨m, hm⟩
  rcases written_alike hc hm rfl hw.atLineStart hw.inDoc with
    ⟨lines, hlines, halone, hinside, -, -, -, hunit, hlevel⟩
  have hdeeper : m.output = w.output ++ Text.deepened "  " s := by
    have hsucc := linesText_succ (by decide : '\n' ∉ "  ".toList) (Int.le_refl 0) hlines
    have hcoutput : c.output = linesText "  " 0 lines := by simpa using halone
    rw [hinside, hw.unit, hw.level, hs, hcoutput]
    exact congrArg (w.output ++ ·) hsucc
  have hmlevel : m.level = 1 := by
    have hwlevel := hw.level
    have hstart : ({} : Writer).level = 0 := rfl
    omega
  have hwritten : ∃ w', w.write f.memberLayout = (w', none) ∧ w'.unit = "  " ∧ w'.level = 1 ∧
      w'.output = w.output ++ f.inType s := by
    -- No documentation is open, so the blank line after an abstract member is not a comment.
    have hmdoc : m.inDoc = false := by
      rw [Writer.write_inDoc hm, hw.inDoc]
      exact leavesDoc_at_any_depth.function f .internal false
    unfold memberLayout inType
    cases f.isAbstract with
    | true =>
      refine ⟨m.emit "\n", Writer.write_append_eq_none_iff.2 ⟨m, hm, rfl⟩, ?_, ?_, ?_⟩
      · rw [Writer.emit_unit, hunit, hw.unit]
      · rw [Writer.emit_level, hmlevel]
      · simp [Writer.emit, Writer.put, hmdoc, hdeeper, ← String.toList_inj]
    | false =>
      -- Every other member ends with its own closing brace.
      refine ⟨m, Writer.write_append_eq_none_iff.2 ⟨m, hm, rfl⟩, hunit.trans hw.unit, hmlevel, ?_⟩
      simp [hdeeper]
  rcases hwritten with ⟨w', hwrite, hunit', hlevel', houtput⟩
  refine ⟨w', hwrite, ⟨hunit', hlevel', ?_, ?_⟩, houtput⟩
  · rcases f.exists_memberLayout_eq with ⟨front, last, hends⟩
    rw [hends] at hwrite
    exact Writer.atLineStart_of_line_end hwrite
  · rw [Writer.write_inDoc hwrite, hw.inDoc]
    exact f.leavesDoc_member

/-- A printed member ends its line. -/
theorem exists_inType_eq (heven : EndsAtZero (f.layout .internal false)) {s : String}
    (htext : f.text = .ok s) : ∃ body, f.inType s = body ++ "\n" := by
  let w : Writer := { level := 1 }
  rcases write_member heven htext (w := w) ⟨rfl, rfl, rfl, rfl⟩ with ⟨w', hwrite, -, houtput⟩
  rcases f.exists_memberLayout_eq with ⟨front, last, hends⟩
  rw [hends] at hwrite
  rcases Writer.exists_output_of_line_end (w := w) rfl hwrite with ⟨body, hbody⟩
  exact ⟨body, (String.append_right_inj w.output).1 (houtput.symm.trans hbody)⟩

/-- All printed members end their lines. -/
theorem exists_inType_eq_of_mem {fs : List FunctionDecl} {texts : List String}
    (htexts : List.Forall₂ (fun f s => f.text = .ok s) fs texts)
    (heven : ∀ f ∈ fs, EndsAtZero (f.layout .internal false)) :
    ∀ m ∈ List.zipWith inType fs texts, ∃ body, m = body ++ "\n" := by
  induction htexts with
  | nil => simp
  | @cons f s fs texts hf _ ih =>
    rw [List.zipWith_cons_cons]
    refine List.forall_mem_cons.2 ⟨exists_inType_eq (heven f List.mem_cons_self) hf, ?_⟩
    exact ih fun g hg => heven g (List.mem_cons_of_mem f hg)

/-- The members after the first are each written after an empty line. -/
theorem write_moreMembers {fs : List FunctionDecl} {texts : List String}
    (htexts : List.Forall₂ (fun f s => f.text = .ok s) fs texts)
    (heven : ∀ f ∈ fs, EndsAtZero (f.layout .internal false)) {w : Writer} (hw : w.AtMember) :
    ∃ w', w.write (layoutMoreMembers fs) = (w', none) ∧ w'.AtMember ∧
      w'.output = w.output ++ String.join ((List.zipWith inType fs texts).map ("\n" ++ ·)) := by
  induction htexts generalizing w with
  | nil => exact ⟨w, by rw [layoutMoreMembers]; rfl, hw, by simp⟩
  | @cons f s fs texts hf _ ih =>
    have hline : w.emit "\n" = { w with output := w.output ++ "\n" } := by
      simp [Writer.emit, Writer.put, hw.inDoc, hw.atLineStart, ← String.toList_inj]
    have hnext : (w.emit "\n").AtMember := by
      rw [hline]
      exact { hw with }
    rcases write_member (heven f List.mem_cons_self) hf hnext with ⟨m, hm, hmid, hfirst⟩
    rcases ih (fun g hg => heven g (List.mem_cons_of_mem f hg)) hmid with ⟨w', hw', hend, hrest⟩
    refine ⟨w', ?_, hend, ?_⟩
    · rw [layoutMoreMembers, List.cons_append, List.cons_append, Writer.write_text]
      exact Writer.write_append_eq_none_iff.2 ⟨m, hm, hw'⟩
    · rw [hrest, hfirst, hline]
      simp [String.append_assoc]

/-- The members of a type are written in order, with an empty line between them. -/
theorem write_members {fs : List FunctionDecl} {texts : List String}
    (htexts : List.Forall₂ (fun f s => f.text = .ok s) fs texts)
    (heven : ∀ f ∈ fs, EndsAtZero (f.layout .internal false)) {w : Writer} (hw : w.AtMember) :
    ∃ w', w.write (layoutMembers fs) = (w', none) ∧ w'.AtMember ∧
      w'.output = w.output ++ "\n".intercalate (List.zipWith inType fs texts) := by
  cases htexts with
  | nil => exact ⟨w, by rw [layoutMembers]; rfl, hw, by simp⟩
  | @cons f s fs texts hf htexts =>
    rcases write_member (heven f List.mem_cons_self) hf hw with ⟨m, hm, hmid, hfirst⟩
    rcases write_moreMembers htexts (fun g hg => heven g (List.mem_cons_of_mem f hg)) hmid with
      ⟨w', hw', hend, hrest⟩
    refine ⟨w', ?_, hend, ?_⟩
    · rw [layoutMembers]
      exact Writer.write_append_eq_none_iff.2 ⟨m, hm, hw'⟩
    · rw [hrest, hfirst, List.zipWith_cons_cons, intercalate_cons_eq, String.append_assoc]

end FunctionDecl

/-! ## Types -/

namespace TypeDecl

variable {t : TypeDecl}

/-- The text between the documentation of a type and its members. -/
def header (t : TypeDecl) (implied : ModifierSet) : String :=
  attributesText t.attributes ++ modifiersText t.modifiers implied ++
    (t.kind.keyword ++ " " ++ escapeReserved t.name ++
      if t.superTypes.isEmpty then ""
      else ": " ++ ", ".intercalate (t.superTypes.map TypeName.text))

theorem spells_header (t : TypeDecl) (implied : ModifierSet) :
    Spells (t.headerLayout implied) (t.header implied) := by
  have hsupers : Spells
      (if t.superTypes.isEmpty then []
        else [.text ": ", .text (", ".intercalate (t.superTypes.map TypeName.text))])
      (if t.superTypes.isEmpty then ""
        else ": " ++ ", ".intercalate (t.superTypes.map TypeName.text)) := by
    split
    · exact spells_nil
    · exact (spells_text _).cons ": "
  exact ((spells_attributes t.attributes).append (spells_modifiers t.modifiers implied)).append
    (hsupers.cons _)

/-- After the header and its brace a member can start. -/
theorem write_opening (t : TypeDecl) {w : Writer} (hunit : w.unit = "  ") (hlevel : w.level = 0)
    (hdoc : w.inDoc = false) :
    ∃ w', w.write (t.headerLayout {} ++ [.text " \x7b\n", .indent]) = (w', none) ∧
      w'.AtMember ∧ w'.output = w.output ++ (t.header {} ++ " \x7b\n") := by
  have hbounds : Text.copiesFault? w.level w.unit = none := by
    rw [hlevel]
    rfl
  have hspells := (t.spells_header {}).append (spells_text " \x7b\n")
  have hline : t.header {} ++ " \x7b\n" = t.header {} ++ " \x7b" ++ "\n" := by
    simp [← String.toList_inj]
  have hwritten := (hspells.writes hbounds).write
  rw [hline, Writer.emit_ended_eq hlevel hdoc] at hwritten
  have hsteps : t.headerLayout {} ++ [.text " \x7b\n", .indent] =
      t.headerLayout {} ++ [.text " \x7b\n"] ++ [.indent] := by simp
  rw [hsteps, hline]
  refine ⟨_, Writer.write_append_eq_none_iff.2 ⟨_, hwritten, rfl⟩, ?_, rfl⟩
  exact ⟨hunit, by simp [Writer.indent, hlevel], rfl, hdoc⟩

/-- After the members the brace closes the type. -/
theorem write_closing {w : Writer} (hw : w.AtMember) :
    ∃ w', w.write [.unindent, .text "\x7d\n"] = (w', none) ∧ w'.output = w.output ++ "\x7d\n" := by
  have hback : w.unindent = .ok { w with level := 0 } := by simp [Writer.unindent, hw.level]
  have hline : "\x7d\n" = "\x7d" ++ "\n" := rfl
  refine ⟨({ w with level := 0 } : Writer).emit "\x7d\n", ?_, ?_⟩
  · rw [Writer.write, Writer.step, hback]
    rfl
  · rw [hline, Writer.emit_ended_eq (w := { w with level := 0 }) rfl hw.inDoc]

/-- The text of a type whose documentation and members, each by itself in a new writer, are written
to their end and come back to level zero: the documentation, the header with an opening brace, each
member as it is written alone with one unit more before each line that is not empty, and the closing
brace. Each member ends its line, and one empty line stands between any two of them. -/
theorem text_of_members (hdoc : EndsAtZero (docLayout t.doc t.doc.layout))
    (hmembers : ∀ f ∈ t.functions, EndsAtZero (f.layout .internal false)) :
    ∃ doc texts, Layout.text (docLayout t.doc t.doc.layout) = .ok doc ∧
      t.functions.mapM FunctionDecl.text = .ok texts ∧
      (∀ m ∈ List.zipWith FunctionDecl.inType t.functions texts, ∃ body, m = body ++ "\n") ∧
      t.text = .ok (doc ++ (t.header {} ++ " \x7b\n") ++
        "\n".intercalate (List.zipWith FunctionDecl.inType t.functions texts) ++ "\x7d\n") := by
  rcases hdoc with ⟨w, hw, hzero⟩
  -- Each member has a text, since it can be written in a new writer.
  have hprinted : ∀ f ∈ t.functions, ∃ s, f.text = .ok s := by
    intro f hf
    rcases hmembers f hf with ⟨v, hv, -⟩
    exact ⟨v.output, text_eq_ok_iff.2 ⟨v, hv, rfl⟩⟩
  rcases exists_forall₂_iff.2 hprinted with ⟨texts, htexts⟩
  have hfresh : Page.Shows {} {} ({} : Writer) := Page.shows_empty rfl rfl
  have hshown := hfresh.write hw
  have hleft : w.inDoc = false := by
    rw [Writer.write_inDoc hw]
    exact leavesDoc_doc t.doc
  -- The three parts one after another: the opening line, the members, the closing brace.
  rcases t.write_opening hshown.unit hzero hleft with ⟨opened, hopen, hready, hheader⟩
  rcases FunctionDecl.write_members htexts hmembers hready with ⟨m, hm, hdone, hbody⟩
  rcases write_closing hdone with ⟨w', hclose, hbrace⟩
  refine ⟨w.output, texts, text_eq_ok_iff.2 ⟨w, hw, rfl⟩, mapM_eq_ok_iff.2 htexts, ?_, ?_⟩
  · exact FunctionDecl.exists_inType_eq_of_mem htexts hmembers
  · have hsteps : t.layout {} =
        docLayout t.doc t.doc.layout ++ (t.headerLayout {} ++ [.text " \x7b\n", .indent] ++
          (FunctionDecl.layoutMembers t.functions ++ [.unindent, .text "\x7d\n"])) := by
      rw [layout_eq]
      simp
    have hinner := Writer.write_append_eq_none_iff.2 ⟨m, hm, hclose⟩
    have houter := Writer.write_append_eq_none_iff.2 ⟨opened, hopen, hinner⟩
    refine text_eq_ok_iff.2 ⟨w', ?_, ?_⟩
    · rw [hsteps]
      exact Writer.write_append_eq_none_iff.2 ⟨w, hw, houter⟩
    · rw [hbrace, hbody, hheader]

/-- A documented type with two members: one with documentation, an attribute, a local type with a
member of its own and an empty line in its body, and one without a body. -/
theorem text_of_members_nested :
    let inner : TypeDecl := {
      kind := .structType, name := "Inner", doc := {}
      functions := [{ name := "g", doc := {}, signature := {}, body := some {} }] }
    let f : FunctionDecl := {
      name := "f", doc := { parts := [.text "Runs.\n\nSlowly."] }
      attributes := [{ name := "objc", arguments := [] }], localTypes := [inner], signature := {}
      body := some { parts := [.text "if x \x7b\n", .directive .indent, .text "a\n\nb\n",
        .directive .unindent, .text "\x7d\n"] } }
    let g : FunctionDecl := { name := "g", doc := {}, signature := {}, body := none }
    let t : TypeDecl := {
      kind := .classType, name := "C", doc := { parts := [.text "Two."] }, functions := [f, g] }
    (EndsAtZero (docLayout t.doc t.doc.layout) ∧
        ∀ f ∈ t.functions, EndsAtZero (f.layout .internal false)) ∧
      t.text = .ok ("/// Two.\n" ++ "class C \x7b\n" ++
        ("  /// Runs.\n  ///\n  /// Slowly.\n  @objc\n  func f() \x7b\n\n" ++
          "    struct Inner \x7b\n      func g() \x7b\n      \x7d\n    \x7d\n\n" ++
          "    if x \x7b\n      a\n\n      b\n    \x7d\n  \x7d\n") ++
        "\n" ++ "  func g()\n" ++ "\x7d\n") := by
  intro inner f g t
  have hdoc : EndsAtZero (docLayout t.doc t.doc.layout) := ⟨_, rfl, rfl⟩
  have hf : EndsAtZero (f.layout .internal false) := ⟨_, rfl, rfl⟩
  have hg : EndsAtZero (g.layout .internal false) := ⟨_, rfl, rfl⟩
  have hmembers : ∀ f ∈ t.functions, EndsAtZero (f.layout .internal false) := by
    simpa [t] using ⟨hf, hg⟩
  rcases text_of_members hdoc hmembers with ⟨doc, texts, hdoctext, htexts, -, htext⟩
  have hdocumented : Layout.text (docLayout t.doc t.doc.layout) = .ok "/// Two.\n" := rfl
  have hprinted : t.functions.mapM FunctionDecl.text =
      .ok ["/// Runs.\n///\n/// Slowly.\n@objc\nfunc f() \x7b\n\n" ++
          "  struct Inner \x7b\n    func g() \x7b\n    \x7d\n  \x7d\n\n" ++
          "  if x \x7b\n    a\n\n    b\n  \x7d\n\x7d\n",
        "func g()"] := by decide +kernel
  cases hdoctext.symm.trans hdocumented
  cases htexts.symm.trans hprinted
  refine ⟨⟨hdoc, hmembers⟩, htext.trans ?_⟩
  decide +kernel

end TypeDecl

end SwiftDecl
