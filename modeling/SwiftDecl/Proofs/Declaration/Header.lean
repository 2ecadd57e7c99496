import SwiftDecl.Proofs.Layout.Getter

/-!
# Headers of declarations as texts

A header is written as texts alone, so it is one text wherever it is written. Each part of a header
has a text of its own, and a lemma that its layout spells it. A function is its documentation, its
header and its body in braces (`FunctionDecl.layout_of_full`), or its bare statements.
-/

namespace SwiftDecl

/-! ## Parts of a header -/

open Layout

/-- Attributes, each on a line of its own. -/
def attributesText (attributes : List Attribute) : String :=
  String.join (attributes.map fun a => a.text ++ "\n")

theorem spells_attributes (attributes : List Attribute) :
    Spells (attributesLayout attributes) (attributesText attributes) :=
  spells_flatMap fun a _ => (spells_text "\n").cons a.text

/-- The modifiers that are not implied, each before a space. -/
def modifiersText (modifiers implied : ModifierSet) : String :=
  String.join ((modifiers.toList.filter fun m => m ∉ implied).map fun m => m.keyword ++ " ")

theorem spells_modifiers (modifiers implied : ModifierSet) :
    Spells (modifiersLayout modifiers implied) (modifiersText modifiers implied) :=
  spells_flatMap fun m _ => (spells_text " ").cons m.keyword

/-- Generic parameters between angle brackets. -/
def typeVariablesText (vs : List TypeVariable) : String :=
  if vs.isEmpty then "" else "<" ++ ", ".intercalate (vs.map TypeVariable.text) ++ ">"

theorem spells_typeVariables (vs : List TypeVariable) :
    Spells (typeVariablesLayout vs) (typeVariablesText vs) := by
  unfold typeVariablesLayout typeVariablesText
  split
  · exact spells_nil
  · exact spells_text _

/-- The text of a block that is written as texts alone. -/
def Code.spelled (c : Code) : String :=
  String.ofList c.layout.chars

/-- The text of a default value after its parameter. -/
def Code.defaultText : Option Code → String
  | none => ""
  | some value => " = " ++ value.spelled

theorem Code.spells_default {default : Option Code}
    (h : ∀ value, default = some value → OnlyTexts value.layout) :
    Spells (Code.defaultLayout default) (Code.defaultText default) := by
  cases default with
  | none =>
    rw [Code.defaultLayout]
    exact spells_nil
  | some value =>
    rw [Code.defaultLayout]
    exact (h value rfl).spells.cons " = "

/-- The label of a parameter, where it is not the name. -/
def Parameter.labelText (p : Parameter) : String :=
  match p.label with
  | some label => if label = p.name then "" else label ++ " "
  | none => ""

/-- The text of a parameter. -/
def Parameter.spelled (p : Parameter) (withType : Bool) : String :=
  p.labelText ++ (escapeReserved p.name ++
    if withType then
      ": " ++ modifiersText p.modifiers {} ++ p.type.text ++ (if p.variadic then "..." else "") ++
        Code.defaultText p.default
    else "")

/-- The default value of the parameter, if there is one, is written as texts alone. -/
def Parameter.HasTextDefault (p : Parameter) : Prop :=
  ∀ value, p.default = some value → OnlyTexts value.layout

theorem Parameter.spells {p : Parameter} (h : p.HasTextDefault) (withType : Bool) :
    Spells (p.layout withType) (p.spelled withType) := by
  unfold HasTextDefault at h
  obtain ⟨name, type, label, modifiers, default, variadic⟩ := p
  unfold Parameter.layout Parameter.spelled
  have htype : Spells
      (.text ": " :: modifiersLayout modifiers {} ++ [.text type.text] ++
        (if variadic then [.text "..."] else []) ++ Code.defaultLayout default)
      (": " ++ modifiersText modifiers {} ++ type.text ++ (if variadic then "..." else "") ++
        Code.defaultText default) :=
    ((((spells_modifiers modifiers {}).cons ": ").append (spells_text type.text)).append
      ((spells_text "...").optional (variadic = true))).append (Code.spells_default h)
  have hnamed := (htype.optional (withType = true)).cons (escapeReserved name)
  -- The label stands before the name only if it differs from it.
  cases label with
  | none => exact spells_nil.append hnamed
  | some l =>
    have hlabel : Spells (if l = name then [] else [.text (l ++ " ")])
        (if l = name then "" else l ++ " ") := by
      split
      · exact spells_nil
      · exact spells_text _
    exact hlabel.append hnamed

/-- The texts of the parameters, between commas. -/
def Parameter.spelledAll (ps : List Parameter) (withTypes : Bool) : String :=
  "(" ++ ", ".intercalate (ps.map fun p => p.spelled withTypes) ++ ")"

theorem Parameter.spells_rest {ps : List Parameter} (h : ∀ p ∈ ps, p.HasTextDefault)
    (withTypes : Bool) :
    Spells (Parameter.layoutRest ps withTypes)
      (String.join ((ps.map fun p => p.spelled withTypes).map fun s => ", " ++ s)) := by
  induction ps with
  | nil =>
    rw [Parameter.layoutRest]
    exact spells_nil
  | cons p ps ih =>
    have hfirst := Parameter.spells (h p List.mem_cons_self) withTypes
    rw [Parameter.layoutRest, List.map_cons, List.map_cons, String.join_cons]
    exact (hfirst.cons ", ").append (ih fun q hq => h q (List.mem_cons_of_mem p hq))

theorem Parameter.spells_all {ps : List Parameter} (h : ∀ p ∈ ps, p.HasTextDefault)
    (withTypes : Bool) :
    Spells (Parameter.layoutAll ps withTypes) (Parameter.spelledAll ps withTypes) := by
  unfold Parameter.spelledAll
  cases ps with
  | nil =>
    rw [Parameter.layoutAll]
    exact (spells_text ")").cons "("
  | cons p ps =>
    have hfirst := Parameter.spells (h p List.mem_cons_self) withTypes
    have hrest := Parameter.spells_rest (fun q hq => h q (List.mem_cons_of_mem p hq)) withTypes
    rw [Parameter.layoutAll, List.map_cons, intercalate_cons_eq, ← String.append_assoc]
    exact ((hfirst.cons "(").append hrest).append (spells_text ")")

/-- The text of a returned type. -/
def returnsText : Option TypeName → String
  | some type => if type.isVoid then "" else " -> " ++ type.text
  | none => ""

/-- The text of a signature with the name of its declaration. -/
def Signature.spelled (s : Signature) (name : String) (emptyParentheses withTypes : Bool) :
    String :=
  name ++ (if s.isFailable then "?" else "") ++ typeVariablesText s.typeVariables ++
    (if s.parameters.isEmpty && !emptyParentheses then ""
      else Parameter.spelledAll s.parameters withTypes) ++
    s.effects ++ returnsText s.returns

theorem Signature.spells {s : Signature} (h : ∀ p ∈ s.parameters, p.HasTextDefault)
    (name : String) (emptyParentheses withTypes : Bool) :
    Spells (s.layout (some name) emptyParentheses withTypes)
      (s.spelled name emptyParentheses withTypes) := by
  obtain ⟨typeVariables, parameters, returns, isThrowing, isAsync, isFailable⟩ := s
  unfold Signature.layout Signature.spelled Signature.effects
  -- Empty parentheses are kept or left out alike in the layout and in the text.
  have hparentheses : Spells
      (if parameters.isEmpty && !emptyParentheses then []
        else Parameter.layoutAll parameters withTypes)
      (if parameters.isEmpty && !emptyParentheses then ""
        else Parameter.spelledAll parameters withTypes) := by
    split
    · exact spells_nil
    · exact Parameter.spells_all h withTypes
  have hword (b : Bool) (s : String) :
      Spells (if b then [.text s] else []) (if b then s else "") :=
    (spells_text s).optional (b = true)
  have hsigned := (((((spells_text name).append (hword isFailable "?")).append
    (spells_typeVariables typeVariables)).append hparentheses).append
    (hword isAsync " async")).append (hword isThrowing " throws")
  rw [← String.append_assoc]
  -- No arrow is written for a function that returns nothing, or `Void`.
  cases returns with
  | none => exact hsigned.append spells_nil
  | some type =>
    have hreturns : Spells (if type.isVoid then [] else [.text " -> ", .text type.text])
        (if type.isVoid then "" else " -> " ++ type.text) := by
      split
      · exact spells_nil
      · exact (spells_text type.text).cons " -> "
    exact hsigned.append hreturns

/-! ## Functions -/

namespace FunctionDecl

variable {f : FunctionDecl} {implied : ModifierSet} {concise : Bool}

/-- What is written between the documentation of a function and its body. -/
def headerLayout (f : FunctionDecl) (implied : ModifierSet) : Layout :=
  attributesLayout f.attributes ++ modifiersLayout f.modifiers implied ++
    (if f.kind.isKeywordless then [] else [.text "func "]) ++
    f.signature.layout (some (FunctionKind.printedName f.name)) (!f.kind.hidesEmptyParameters)
      (!f.kind.hidesParameterTypes)

/-- The text between the documentation of a function and its body. -/
def header (f : FunctionDecl) (implied : ModifierSet) : String :=
  attributesText f.attributes ++ modifiersText f.modifiers implied ++
    (if f.kind.isKeywordless then "" else "func ") ++
    f.signature.spelled (FunctionKind.printedName f.name) (!f.kind.hidesEmptyParameters)
      (!f.kind.hidesParameterTypes)

theorem spells_header (h : ∀ p ∈ f.signature.parameters, p.HasTextDefault)
    (implied : ModifierSet) : Spells (f.headerLayout implied) (f.header implied) := by
  have hkeyword : Spells (if f.kind.isKeywordless then [] else [.text "func "])
      (if f.kind.isKeywordless then "" else "func ") := by
    split
    · exact spells_nil
    · exact spells_text _
  exact (((spells_attributes f.attributes).append (spells_modifiers f.modifiers implied)).append
    hkeyword).append (Signature.spells h _ _ _)

/-- A header that shows types has the parameters in it, if there are any. -/
theorem exists_header_eq (hkind : f.kind.hidesParameterTypes = false)
    (hsome : f.signature.parameters ≠ []) :
    ∃ before after, f.header implied =
      before ++ Parameter.spelledAll f.signature.parameters true ++ after := by
  have hparameters : f.signature.parameters.isEmpty = false := by simpa using hsome
  refine ⟨attributesText f.attributes ++ modifiersText f.modifiers implied ++
    (if f.kind.isKeywordless then "" else "func ") ++
    (FunctionKind.printedName f.name ++ (if f.signature.isFailable then "?" else "") ++
      typeVariablesText f.signature.typeVariables),
    f.signature.effects ++ returnsText f.signature.returns, ?_⟩
  simp [header, Signature.spelled, hkind, hparameters, String.append_assoc]

/-- The function is written as its bare statements. -/
def IsShort (f : FunctionDecl) (concise : Bool) : Prop :=
  f.kind = .getter ∧ concise = true ∧ f.isPlain = true

theorem not_isShort (f : FunctionDecl) : ¬ f.IsShort false :=
  fun h => Bool.false_ne_true h.2.1

theorem layout_of_short (h : f.IsShort concise) : f.layout implied concise = f.statements := by
  obtain ⟨hkind, hconcise, hplain⟩ := h
  obtain ⟨name, doc, attributes, tags, modifiers, signature, localTypes, body⟩ := f
  have hname : FunctionKind.ofName name = .getter := hkind
  have hguard : (doc.isEmpty && attributes.isEmpty && modifiers.isEmpty) = true := hplain
  rw [FunctionDecl.layout, hname]
  simp only [decide_true, Bool.true_and, hconcise, hguard, ↓reduceIte]
  rfl

/-- In all other cases it is written in full: its documentation, its header and, unless it is
abstract, its statements in braces. -/
theorem layout_of_full (h : ¬ f.IsShort concise) :
    f.layout implied concise =
      docLayout f.doc f.doc.layout ++ f.headerLayout implied ++
        if f.isAbstract then []
        else [.text " \x7b\n", .indent] ++ f.statements ++ [.unindent, .text "\x7d\n"] := by
  obtain ⟨name, doc, attributes, tags, modifiers, signature, localTypes, body⟩ := f
  -- The writer decides on the short form by a check, which is that of `IsShort`.
  have hguard : (decide (FunctionKind.ofName name = .getter) && concise && doc.isEmpty &&
      attributes.isEmpty && modifiers.isEmpty) = false := by
    rw [← Bool.not_eq_true]
    intro hall
    refine h ⟨?_, ?_, ?_⟩ <;> simp_all [kind, isPlain]
  rw [FunctionDecl.layout]
  simp only [hguard, Bool.false_eq_true, ↓reduceIte]
  simp only [headerLayout, kind, isAbstract, statements, List.append_assoc]
  rfl

end FunctionDecl

end SwiftDecl
