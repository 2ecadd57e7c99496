import SwiftDecl.Proofs.Draft.Grammar
import SwiftDecl.Proofs.Layout.Lines
import SwiftDecl.Proofs.Layout.Place

/-!
# Concise getters

A getter with nothing before its body can be written as its bare statements. What is lost on the
way is the keyword with the effects after it, and the braces; the statements are the same lines,
one level higher (`getter_concise`). The two ways to write it run side by side: the page of the
statements is the same in both, and each writer shows it from its own level.
-/

namespace SwiftDecl

/-! ## Lines from another level -/

/-- A line that is written one level deeper has one more unit before it. -/
theorem Line.shown_succ {unit : String} {level : Int} {l : Line} (htext : l.text ≠ [])
    (hdepth : 0 ≤ level + l.depth) :
    l.shown unit (level + 1) = unit.toList ++ l.shown unit level := by
  have hnat : (level + 1 + l.depth).toNat = (level + l.depth).toNat + 1 := by omega
  rw [Line.shown_of_ne_nil htext, Line.shown_of_ne_nil htext]
  by_cases hunit : unit = ""
  · simp [Text.copies, hunit]
  · simp [Text.copies, hunit, hnat, List.replicate_succ]

/-- The lines as one text, written from the level on. -/
def Layout.linesText (unit : String) (level : Int) (lines : List Line) : String :=
  String.ofList (['\n'].intercalate (lines.map (Line.shown unit level)))

/-- What a writer shows of a page are its lines from the level of its start on. -/
theorem Page.Shows.output_eq {start w : Writer} {p : Page} (h : p.Shows start w) :
    w.output = start.output ++ Layout.linesText start.unit start.level p.lines := by
  rw [← String.toList_inj, String.toList_append, Layout.linesText, String.toList_ofList,
    ← Page.shown_eq_intercalate]
  exact h.output

namespace Writer

variable {w w' : Writer}

/-- A brace that closes a block goes on with the last line of the block, or starts one at the level
before the block. -/
theorem output_of_close (h : w.write [.unindent, .text "\x7d\n"] = (w', none)) :
    w'.output = w.output ++
      (if w.atLineStart then { w with level := w.level - 1 }.lineStart else "") ++ "\x7d\n" := by
  rw [write] at h
  simp only [step, unindent] at h
  by_cases hlow : w.level - 1 < 0
  · rw [if_pos hlow] at h
    cases h
  · rw [if_neg hlow] at h
    have hbrace : "\x7d\n" = "\x7d" ++ "\n" := rfl
    have hg : ({ w with level := w.level - 1 }.emit ("\x7d" ++ "\n"), none) = (w', none) := h
    rw [emit_line (by decide) (by decide)] at hg
    cases hg
    rw [hbrace, String.append_assoc]

end Writer

/-! ## Getters -/

/-- The effects of a function, as they are written after its parameters. -/
def Signature.effects (s : Signature) : String :=
  (if s.isAsync then " async" else "") ++ (if s.isThrowing then " throws" else "")

/-- The effects stand on one line. -/
theorem Signature.newline_not_mem_effects (s : Signature) : '\n' ∉ s.effects.toList := by
  unfold Signature.effects
  cases s.isAsync <;> cases s.isThrowing <;> decide

namespace FunctionDecl

variable {f : FunctionDecl} {implied : ModifierSet}

/-- There is nothing before the header of the function. -/
def isPlain (f : FunctionDecl) : Bool :=
  f.doc.isEmpty && f.attributes.isEmpty && f.modifiers.isEmpty

/-- What stands in the body of a function: its local types and its statements. -/
def statements (f : FunctionDecl) : Layout :=
  TypeDecl.localLayout f.localTypes ++ Code.bodyLayout f.body

/-- The function is a getter as the grammar has it: its signature has nothing but effects. -/
structure IsGetter (f : FunctionDecl) : Prop where
  name : f.name = "get"
  typeVariables : f.signature.typeVariables = []
  parameters : f.signature.parameters = []
  returns : f.signature.returns = none
  isFailable : f.signature.isFailable = false

/-- A getter that is built from a draft keeps to the grammar. -/
theorem isGetter_of_build {calls : List DraftCall}
    (h : (Factory.getter.reach calls).build = .ok f) : f.IsGetter := by
  have hname := FunctionDraft.reach_name .getter calls
  have hgrammatical := FunctionDraft.grammatical_of_reach .getter calls
  have hkind : (Factory.getter.reach calls).kind = .getter := by
    rw [FunctionDraft.kind, hname]
    rfl
  rw [hgrammatical.build_eq] at h
  cases h
  refine ⟨hname, ?_, ?_, ?_, ?_⟩
  · exact hgrammatical.accessor_typeVariables (.inl hkind)
  · exact hgrammatical.getter_parameters hkind
  · exact hgrammatical.returns_none (.inl hkind)
  · show (Factory.getter.reach calls).signature.isFailable = false
    rw [← Bool.not_eq_true]
    intro hfailable
    have hinit := hgrammatical.failable_initializer hfailable
    rw [hkind] at hinit
    cases hinit

/-- Only a plain getter has a concise form. -/
theorem layout_of_not_plain (h : f.isPlain = false) :
    f.layout implied true = f.layout implied false := by
  obtain ⟨name, doc, attributes, tags, modifiers, signature, localTypes, body⟩ := f
  rw [FunctionDecl.layout, FunctionDecl.layout]
  have hcond : ∀ b : Bool,
      (b && doc.isEmpty && attributes.isEmpty && modifiers.isEmpty) = false := by
    intro b
    cases b
    · rfl
    · exact h
  simp [hcond]

/-- A plain function writes nothing before its header. -/
theorem isPlain_iff :
    f.isPlain = true ↔ f.doc.isEmpty = true ∧ f.attributes = [] ∧ f.modifiers.toList = [] := by
  simp [isPlain, ModifierSet.isEmpty, and_assoc]

/-- The concise form of a plain getter are its statements. -/
theorem IsGetter.layout_concise (h : f.IsGetter) (hplain : f.isPlain = true) :
    f.layout implied true = f.statements := by
  obtain ⟨name, doc, attributes, tags, modifiers, signature, localTypes, body⟩ := f
  obtain rfl : name = "get" := h.name
  have hkind : FunctionKind.ofName "get" = .getter := rfl
  have hguard : (doc.isEmpty && attributes.isEmpty && modifiers.isEmpty) = true := hplain
  rw [FunctionDecl.layout, hkind]
  simp only [decide_true, Bool.and_true, Bool.true_and, hguard, ↓reduceIte]
  rfl

/-- The full form of a plain getter is its keyword with the effects and, unless it is abstract,
its statements in braces. -/
theorem IsGetter.layout_full (h : f.IsGetter) (hplain : f.isPlain = true) :
    f.layout implied false =
      .text "get" :: ((if f.signature.isAsync then [.text " async"] else []) ++
        ((if f.signature.isThrowing then [.text " throws"] else []) ++
        if f.isAbstract then []
        else .text " \x7b\n" :: .indent :: (f.statements ++ [.unindent, .text "\x7d\n"]))) := by
  obtain ⟨hdoc, hattributes, hmodifiers⟩ := isPlain_iff.1 hplain
  obtain ⟨name, doc, attributes, tags, modifiers, signature, localTypes, body⟩ := f
  obtain ⟨typeVariables, parameters, returns, isThrowing, isAsync, isFailable⟩ := signature
  obtain ⟨rfl, rfl, rfl, rfl, rfl⟩ := h
  simp only at hdoc hattributes hmodifiers
  have hkind : FunctionKind.ofName "get" = .getter := rfl
  have hprinted : FunctionKind.printedName "get" = "get" := rfl
  rw [FunctionDecl.layout, hkind]
  unfold Signature.layout
  simp [docLayout, hdoc, hattributes, attributesLayout, modifiersLayout, hmodifiers, hprinted,
    FunctionKind.isKeywordless, FunctionKind.hidesEmptyParameters, typeVariablesLayout,
    isAbstract, statements]

/-- The header of a plain getter is written as one word. -/
theorem write_header (s : Signature) (w : Writer) (rest : Layout) :
    w.write (.text "get" :: ((if s.isAsync then [.text " async"] else []) ++
        ((if s.isThrowing then [.text " throws"] else []) ++ rest))) =
      (w.emit ("get" ++ s.effects)).write rest := by
  rw [Signature.effects, Writer.emit_append, Writer.emit_append, Writer.write_text,
    Writer.write_optional, Writer.write_optional]

/-- The same layout, written by two writers at the start of a line from levels of their own, is the
same lines from these levels on, and the writers end alike. -/
theorem written_alike {layout : Layout} {w v c m : Writer}
    (hc : w.write layout = (c, none)) (hm : v.write layout = (m, none))
    (hw : w.atLineStart = true) (hv : v.atLineStart = true) (hdoc : v.inDoc = w.inDoc) :
    ∃ lines,
      Layout.AreLinesFrom w.level lines ∧
      c.output = w.output ++ Layout.linesText w.unit w.level lines ∧
      m.output = v.output ++ Layout.linesText v.unit v.level lines ∧
      m.atLineStart = c.atLineStart ∧ m.inDoc = c.inDoc ∧ c.unit = w.unit ∧ m.unit = v.unit ∧
      m.level - v.level = c.level - w.level := by
  have hstart := Page.shows_start hv
  rw [hdoc] at hstart
  have hshown := (Page.shows_start hw).write hc
  have hshown' := hstart.write hm
  have hfits : Layout.Fits (w.level + ({ inDoc := w.inDoc } : Page).depth) layout := by
    rw [Int.add_zero]
    exact Writer.write_eq_none_iff.1 ⟨c, hc⟩
  refine ⟨_, Layout.areLinesFrom_write (Layout.areLinesFrom_empty w.level w.inDoc) (by simp) hfits,
    hshown.output_eq, hshown'.output_eq, ?_, ?_, hshown.unit, hshown'.unit, ?_⟩
  · rw [Bool.eq_iff_iff, hshown.atLineStart, hshown'.atLineStart]
  · rw [hshown.inDoc, hshown'.inDoc]
  · rw [hshown.level, hshown'.level]
    omega

/-- The writer that has written the header of a plain getter with a body goes on with the
statements, one level deeper. -/
theorem IsGetter.exists_opened (h : f.IsGetter) (hplain : f.isPlain = true)
    (hbody : f.isAbstract = false) {w g : Writer} (hstart : w.atLineStart = true)
    (hg : w.write (f.layout implied false) = (g, none)) :
    ∃ v : Writer, v.write (f.statements ++ [.unindent, .text "\x7d\n"]) = (g, none) ∧
      v.output = w.output ++ w.lineStart ++ "get" ++ f.signature.effects ++ " \x7b\n" ∧
      v.unit = w.unit ∧ v.level = w.level + 1 ∧ v.inDoc = w.inDoc ∧ v.atLineStart = true := by
  have hline : '\n' ∉ ("get" ++ f.signature.effects ++ " \x7b").toList := by
    simp [f.signature.newline_not_mem_effects]
  have hheader : "get" ++ f.signature.effects ++ " \x7b\n" =
      ("get" ++ f.signature.effects ++ " \x7b") ++ "\n" := by
    simp [← String.toList_inj]
  rw [h.layout_full hplain, hbody, write_header, if_neg Bool.false_ne_true, Writer.write_text,
    ← Writer.emit_append, hheader, Writer.emit_line hline (by simp [← String.toList_inj]), hstart,
    if_pos rfl] at hg
  refine ⟨_, hg, ?_, rfl, rfl, rfl, rfl⟩
  simp [Writer.indent, ← String.toList_inj]

/-- A plain getter with a body has its statements in braces, one level deeper. -/
theorem IsGetter.full_output (h : f.IsGetter) (hplain : f.isPlain = true)
    (hbody : f.isAbstract = false) {w c g : Writer} (hstart : w.atLineStart = true)
    (hc : w.write f.statements = (c, none)) (hg : w.write (f.layout implied false) = (g, none)) :
    ∃ lines,
      Layout.AreLinesFrom w.level lines ∧
      c.output = w.output ++ Layout.linesText w.unit w.level lines ∧
      g.output = w.output ++ w.lineStart ++ "get" ++ f.signature.effects ++ " \x7b\n" ++
        Layout.linesText w.unit (w.level + 1) lines ++
        (if c.atLineStart then c.lineStart else "") ++ "\x7d\n" := by
  obtain ⟨v, hv, houtput, hunit, hdeeper, hinDoc, hvstart⟩ :=
    h.exists_opened hplain hbody hstart hg
  obtain ⟨m, hm, hclose⟩ := Writer.write_append_eq_none_iff.1 hv
  obtain ⟨lines, hlines, hconcise, hfull, hstarts, hdoc, hcunit, hmunit, hlevel⟩ :=
    written_alike hc hm hstart hvstart hinDoc
  refine ⟨lines, hlines, hconcise, ?_⟩
  have hlower : ({ m with level := m.level - 1 } : Writer).lineStart = c.lineStart := by
    have hsame : m.level - 1 = c.level := by omega
    simp [Writer.lineStart, Writer.indentation, hsame, hdoc, hcunit, hmunit, hunit]
  rw [Writer.output_of_close hclose, hlower, hstarts, hfull, houtput, hunit, hdeeper]

/-- A getter that is drafted by any calls and written at the start of a line. If it has
documentation, attributes or modifiers, it has no concise form. Otherwise its concise form is some
lines, and its full form is the keyword with the effects and, unless the getter is abstract, the
same lines in braces, each with one more unit before it. The closing brace stands where the lines
end: in the last one if that is not ended, or else on a line of its own at the level that they
leave. -/
theorem getter_concise {calls : List DraftCall}
    (hf : (Factory.getter.reach calls).build = .ok f) {w c g : Writer}
    (hstart : w.atLineStart = true) (hc : w.write (f.layout implied true) = (c, none))
    (hg : w.write (f.layout implied false) = (g, none)) :
    (f.isPlain = false → c = g) ∧
    (f.isPlain = true → ∃ lines : List Line,
      (∀ l ∈ lines, '\n' ∉ l.text) ∧
      (0 ≤ w.level → ∀ l ∈ lines, l.text ≠ [] →
        l.shown w.unit (w.level + 1) = w.unit.toList ++ l.shown w.unit w.level) ∧
      c.output = w.output ++ Layout.linesText w.unit w.level lines ∧
      g.output = w.output ++ w.lineStart ++ "get" ++ f.signature.effects ++
        (if f.isAbstract then ""
        else " \x7b\n" ++ Layout.linesText w.unit (w.level + 1) lines ++
          (if c.atLineStart then c.lineStart else "") ++ "\x7d\n")) := by
  have hget := isGetter_of_build hf
  constructor
  · -- Not short in any case: the flag makes no difference.
    intro hplain
    rw [layout_of_not_plain hplain, hg] at hc
    cases hc
    rfl
  · intro hplain
    rw [hget.layout_concise hplain] at hc
    cases habstract : f.isAbstract with
    | false =>
      -- With a body: the short form is its lines, and the full form the same lines one level
      -- deeper.
      obtain ⟨lines, hlines, hconcise, hfull⟩ := hget.full_output hplain habstract hstart hc hg
      refine ⟨lines, fun l hl => (hlines l hl).2, ?_, hconcise, ?_⟩
      · intro hlevel l hl htext
        exact Line.shown_succ htext ((hlines l hl).1 hlevel)
      · rw [hfull, if_neg Bool.false_ne_true]
        simp only [String.append_assoc]
    | true =>
      -- Abstract: the full form is the word alone, whatever lines the short form has.
      have hword : '\n' ∉ ("get" ++ f.signature.effects).toList := by
        simp [f.signature.newline_not_mem_effects]
      rw [hget.layout_full hplain, habstract, write_header, if_pos rfl,
        Writer.emit_word hword (by simp [← String.toList_inj]), hstart, if_pos rfl] at hg
      obtain ⟨lines, hlines, hconcise, -⟩ := written_alike hc hc hstart hstart rfl
      refine ⟨lines, fun l hl => (hlines l hl).2, ?_, hconcise, ?_⟩
      · intro hlevel l hl htext
        exact Line.shown_succ htext ((hlines l hl).1 hlevel)
      · cases hg
        simp [String.append_assoc]

/-- A getter that throws, one level deep: the same line stands in both forms, and the effect in one
of them. -/
theorem getter_concise_throwing :
    let calls : List DraftCall := [.addStatement "return 1" [], .setThrowing true]
    let f := (Factory.getter.reach calls).toFunction
    let w : Writer := { level := 1 }
    let c : Writer := { level := 1, output := "  return 1\n" }
    let g : Writer := { level := 1, output := "  get throws \x7b\n    return 1\n  \x7d\n" }
    (Factory.getter.reach calls).build = .ok f ∧ w.atLineStart = true ∧
      w.write (f.layout {} true) = (c, none) ∧ w.write (f.layout {} false) = (g, none) ∧
      ∃ lines : List Line,
        c.output = w.output ++ Layout.linesText w.unit 1 lines ∧
        g.output = w.output ++ w.lineStart ++ "get" ++ f.signature.effects ++
          (" \x7b\n" ++ Layout.linesText w.unit 2 lines ++ c.lineStart ++ "\x7d\n") := by
  intro calls f w c g
  have hf : (Factory.getter.reach calls).build = .ok f := rfl
  have hstart : w.atLineStart = true := rfl
  have hc : w.write (f.layout {} true) = (c, none) := by decide
  have hg : w.write (f.layout {} false) = (g, none) := by decide
  obtain ⟨-, hplain⟩ := getter_concise hf hstart hc hg
  obtain ⟨lines, -, -, hconcise, hfull⟩ := hplain rfl
  exact ⟨hf, hstart, hc, hg, lines, hconcise, hfull⟩

end FunctionDecl

/-! ## What the concise form leaves out -/

/-- The text with one more unit before each line that is not empty. -/
def Text.deepened (unit text : String) : String :=
  String.ofList (['\n'].intercalate
    ((text.toList.splitOn '\n').map fun l => if l = [] then [] else unit.toList ++ l))

/-- In a new writer the full form of the getter is its concise form, as it is or in braces. -/
def FunctionDecl.ConciseInBraces (calls : List DraftCall) : Prop :=
  ∀ f c g, (Factory.getter.reach calls).build = .ok f →
    ({} : Writer).write (f.layout {} true) = (c, none) →
      ({} : Writer).write (f.layout {} false) = (g, none) →
        c.output = g.output ∨
          g.output = "get \x7b\n" ++ Text.deepened "  " c.output ++ "\x7d\n"

/-- A plain getter need not be its concise form in braces: it can have effects or no body, and a
body that indents moves the brace at its end. -/
theorem FunctionDecl.concise_form_not_in_braces :
    ¬ ConciseInBraces [.addStatement "return 1" [], .setThrowing true] ∧
      ¬ ConciseInBraces [.setAbstract true] ∧
      ¬ ConciseInBraces [.addCode (.template "return 1\n%>" [])] := by
  refine ⟨?_, ?_, ?_⟩
  all_goals
    intro h
    exact absurd (h _ _ _ rfl rfl rfl) (by decide)

end SwiftDecl
