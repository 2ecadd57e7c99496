import SwiftDecl.Proofs.Declaration.Header

/-!
# Declarations from their parts

A property of layouts that holds of texts and goes from layouts to their sequence and to blocks in
braces (`Layout.Composes`) holds of a declaration as soon as it holds of the blocks of code and the
declarations right in it. Each lemma below goes one level up, so a proof about declarations at any
depth is a recursion over the tree alone. Documentation is left to the one who proves the property:
what stands before a header is asked for together with the header.

A property that asks nothing of the blocks of code holds of every declaration
(`Layout.Composes.AtAnyDepth`).
-/

namespace SwiftDecl

open Layout

/-- The property holds of texts, and goes from layouts to their sequence and to a block in
braces. -/
structure Layout.Composes (P : Layout → Prop) : Prop where
  nil : P []
  text : ∀ s, P [.text s]
  append : ∀ {a b : Layout}, P a → P b → P (a ++ b)
  braces : ∀ {inner : Layout}, P inner →
    P ([.text " \x7b\n", .indent] ++ inner ++ [.unindent, .text "\x7d\n"])

namespace TypeDecl

/-- What is written between the documentation of a type and its members. -/
def headerLayout (t : TypeDecl) (implied : ModifierSet) : Layout :=
  attributesLayout t.attributes ++ modifiersLayout t.modifiers implied ++
    .text (t.kind.keyword ++ " " ++ escapeReserved t.name) ::
    if t.superTypes.isEmpty then []
    else [.text ": ", .text (", ".intercalate (t.superTypes.map TypeName.text))]

/-- A type is its documentation, its header and its members in braces. -/
theorem layout_eq (t : TypeDecl) (implied : ModifierSet) :
    t.layout implied =
      docLayout t.doc t.doc.layout ++ t.headerLayout implied ++
        ([.text " \x7b\n", .indent] ++ FunctionDecl.layoutMembers t.functions ++
          [.unindent, .text "\x7d\n"]) := by
  obtain ⟨kind, name, doc, attributes, tags, modifiers, superTypes, functions⟩ := t
  rw [TypeDecl.layout]
  simp [headerLayout]

/-- The header of a type is texts alone. -/
theorem onlyTexts_header (t : TypeDecl) (implied : ModifierSet) :
    OnlyTexts (t.headerLayout implied) := by
  have hsupers : OnlyTexts (if t.superTypes.isEmpty then []
      else [.text ": ", .text (", ".intercalate (t.superTypes.map TypeName.text))]) := by
    split
    · exact onlyTexts_nil
    · exact (onlyTexts_text _).append (onlyTexts_text _)
  have hfront := ((spells_attributes t.attributes).append
    (spells_modifiers t.modifiers implied)).onlyTexts
  exact hfront.append ((onlyTexts_text _).append hsupers)

end TypeDecl

namespace Layout.Composes

variable {P : Layout → Prop} {a : Layout}

theorem cons (hP : Composes P) (s : String) (h : P a) : P (.text s :: a) :=
  hP.append (hP.text s) h

/-- The property holds of texts in sequence. -/
theorem onlyTexts (hP : Composes P) (h : OnlyTexts a) : P a := by
  induction a with
  | nil => exact hP.nil
  | cons step rest ih =>
    obtain ⟨s, rfl⟩ := h step List.mem_cons_self
    exact hP.cons s (ih fun step hstep => h step (List.mem_cons_of_mem _ hstep))

/-- A part that can be left out. -/
theorem optional (hP : Composes P) {p : Prop} [Decidable p] (h : P a) :
    P (if p then a else []) := by
  split
  · exact h
  · exact hP.nil

/-! ## Headers -/

theorem parameter (hP : Composes P) {p : Parameter}
    (hdefault : ∀ c, p.default = some c → P c.layout) (withType : Bool) :
    P (p.layout withType) := by
  obtain ⟨name, type, label, modifiers, default, variadic⟩ := p
  unfold Parameter.layout
  -- The default value is the only part that is not text.
  have hvalue : P (Code.defaultLayout default) := by
    cases default with
    | none =>
      rw [Code.defaultLayout]
      exact hP.nil
    | some c =>
      rw [Code.defaultLayout]
      exact hP.cons " = " (hdefault c rfl)
  have hmodifiers := hP.onlyTexts (spells_modifiers modifiers {}).onlyTexts
  have htype : P (.text ": " :: modifiersLayout modifiers {} ++ [.text type.text] ++
      (if variadic then [.text "..."] else []) ++ Code.defaultLayout default) :=
    hP.append (hP.append (hP.append (hP.cons ": " hmodifiers) (hP.text _))
      (hP.optional (hP.text _))) hvalue
  have hnamed := hP.cons (escapeReserved name) (hP.optional (p := withType = true) htype)
  cases label with
  | none => exact hP.append hP.nil hnamed
  | some l =>
    have hlabel : P (if l = name then [] else [.text (l ++ " ")]) := by
      split
      · exact hP.nil
      · exact hP.text _
    exact hP.append hlabel hnamed

theorem parameters (hP : Composes P) {ps : List Parameter}
    (hdefaults : ∀ p ∈ ps, ∀ c, p.default = some c → P c.layout) (withTypes : Bool) :
    P (Parameter.layoutAll ps withTypes) := by
  -- the parameters after a comma
  have hrest : ∀ ps : List Parameter, (∀ p ∈ ps, ∀ c, p.default = some c → P c.layout) →
      P (Parameter.layoutRest ps withTypes) := by
    intro ps
    induction ps with
    | nil =>
      intro _
      rw [Parameter.layoutRest]
      exact hP.nil
    | cons p ps ih =>
      intro h
      have hfirst := hP.parameter (h p List.mem_cons_self) withTypes
      rw [Parameter.layoutRest]
      exact hP.append (hP.cons ", " hfirst) (ih fun q hq => h q (List.mem_cons_of_mem p hq))
  -- The first parameter has no comma before it.
  cases ps with
  | nil =>
    rw [Parameter.layoutAll]
    exact hP.cons "(" (hP.text ")")
  | cons p ps =>
    have hfirst := hP.parameter (hdefaults p List.mem_cons_self) withTypes
    have hmore := hrest ps fun q hq => hdefaults q (List.mem_cons_of_mem p hq)
    rw [Parameter.layoutAll]
    exact hP.append (hP.append (hP.cons "(" hfirst) hmore) (hP.text ")")

theorem signature (hP : Composes P) {s : Signature}
    (hdefaults : ∀ p ∈ s.parameters, ∀ c, p.default = some c → P c.layout) (name : String)
    (emptyParentheses withTypes : Bool) :
    P (s.layout (some name) emptyParentheses withTypes) := by
  obtain ⟨typeVariables, parameters, returns, isThrowing, isAsync, isFailable⟩ := s
  unfold Signature.layout
  have hword : ∀ (b : Bool) (s : String), P (if b then [.text s] else []) :=
    fun b s => hP.optional (hP.text s)
  -- Empty parentheses can be left out.
  have hparentheses : P (if parameters.isEmpty && !emptyParentheses then []
      else Parameter.layoutAll parameters withTypes) := by
    split
    · exact hP.nil
    · exact hP.parameters hdefaults withTypes
  have hvariables := hP.onlyTexts (spells_typeVariables typeVariables).onlyTexts
  have hsigned := hP.append (hP.append (hP.append (hP.append (hP.append (hP.text name)
    (hword isFailable "?")) hvariables) hparentheses) (hword isAsync " async"))
    (hword isThrowing " throws")
  cases returns with
  | none => exact hP.append hsigned hP.nil
  | some type =>
    have hreturns : P (if type.isVoid then [] else [.text " -> ", .text type.text]) := by
      split
      · exact hP.nil
      · exact hP.cons " -> " (hP.text _)
    exact hP.append hsigned hreturns

/-- The header of a function, from the defaults of its parameters. -/
theorem functionHeader (hP : Composes P) {f : FunctionDecl}
    (hdefaults : ∀ p ∈ f.signature.parameters, ∀ c, p.default = some c → P c.layout)
    (implied : ModifierSet) : P (f.headerLayout implied) := by
  unfold FunctionDecl.headerLayout
  have hfront := hP.onlyTexts
    ((spells_attributes f.attributes).append (spells_modifiers f.modifiers implied)).onlyTexts
  have hkeyword : P (if f.kind.isKeywordless then [] else [.text "func "]) := by
    split
    · exact hP.nil
    · exact hP.text _
  exact hP.append (hP.append hfront hkeyword) (hP.signature hdefaults _ _ _)

/-! ## Bodies and members -/

/-- The statements of a function, from its local types and its body. -/
theorem statements (hP : Composes P) {f : FunctionDecl}
    (htypes : ∀ t ∈ f.localTypes, P (t.layout {}))
    (hbody : ∀ b, f.body = some b → P b.layout) : P f.statements := by
  -- the local types after the first, each after a blank line
  have hmore : ∀ ts : List TypeDecl, (∀ t ∈ ts, P (t.layout {})) → P (TypeDecl.layoutMore ts) := by
    intro ts
    induction ts with
    | nil =>
      intro _
      rw [TypeDecl.layoutMore]
      exact hP.nil
    | cons t ts ih =>
      intro h
      rw [TypeDecl.layoutMore]
      exact hP.append (hP.cons "\n" (h t List.mem_cons_self))
        (ih fun u hu => h u (List.mem_cons_of_mem t hu))
  -- A blank line stands around all local types together, and none if there are none.
  have hlocal : P (TypeDecl.localLayout f.localTypes) := by
    cases hts : f.localTypes with
    | nil =>
      rw [TypeDecl.localLayout]
      exact hP.nil
    | cons t ts =>
      rw [hts] at htypes
      have hrest := hmore ts fun u hu => htypes u (List.mem_cons_of_mem t hu)
      rw [TypeDecl.localLayout]
      exact hP.append (hP.append (hP.cons "\n" (htypes t List.mem_cons_self)) hrest) (hP.text "\n")
  refine hP.append hlocal ?_
  cases hf : f.body with
  | none =>
    rw [Code.bodyLayout]
    exact hP.nil
  | some b =>
    rw [Code.bodyLayout]
    exact hbody b hf

/-- A function, from its statements and from what stands before them. -/
theorem function (hP : Composes P) {f : FunctionDecl} {implied : ModifierSet}
    (hfront : P (docLayout f.doc f.doc.layout ++ f.headerLayout implied))
    (hstatements : P f.statements) (concise : Bool) : P (f.layout implied concise) := by
  by_cases hshort : f.IsShort concise
  · rw [FunctionDecl.layout_of_short hshort]
    exact hstatements
  · rw [FunctionDecl.layout_of_full hshort]
    refine hP.append hfront ?_
    split
    · exact hP.nil
    · exact hP.braces hstatements

/-- A type, from its member functions and from what stands before them. -/
theorem type (hP : Composes P) {t : TypeDecl} {implied : ModifierSet}
    (hfront : P (docLayout t.doc t.doc.layout ++ t.headerLayout implied))
    (hmembers : ∀ f ∈ t.functions, P (f.layout .internal false)) : P (t.layout implied) := by
  -- An abstract member has no braces, so a blank line is added to it.
  have hmember : ∀ f : FunctionDecl, P (f.layout .internal false) →
      P (f.layout .internal false ++ if f.isAbstract then [.text "\n"] else []) :=
    fun f h => hP.append h (hP.optional (hP.text "\n"))
  -- the members after the first, each after a blank line
  have hmore : ∀ fs : List FunctionDecl, (∀ f ∈ fs, P (f.layout .internal false)) →
      P (FunctionDecl.layoutMoreMembers fs) := by
    intro fs
    induction fs with
    | nil =>
      intro _
      rw [FunctionDecl.layoutMoreMembers]
      exact hP.nil
    | cons f fs ih =>
      intro h
      rw [FunctionDecl.layoutMoreMembers]
      exact hP.append (hP.cons "\n" (hmember f (h f List.mem_cons_self)))
        (ih fun g hg => h g (List.mem_cons_of_mem f hg))
  have hall : P (FunctionDecl.layoutMembers t.functions) := by
    cases hfs : t.functions with
    | nil =>
      rw [FunctionDecl.layoutMembers]
      exact hP.nil
    | cons f fs =>
      rw [hfs] at hmembers
      rw [FunctionDecl.layoutMembers]
      exact hP.append (hmember f (hmembers f List.mem_cons_self))
        (hmore fs fun g hg => hmembers g (List.mem_cons_of_mem f hg))
  rw [TypeDecl.layout_eq]
  exact hP.append hfront (hP.braces hall)

end Layout.Composes

/-! ## Declarations at any depth -/

/-- Besides, the property holds of each step outside of documentation, and documentation can go
before a header, whatever is in it. -/
structure Layout.Composes.AtAnyDepth (P : Layout → Prop) : Prop extends Composes P where
  step : ∀ s, s ≠ .beginDoc → s ≠ .endDoc → P [s]
  documented_function : ∀ (f : FunctionDecl) (implied : ModifierSet), P (f.headerLayout implied) →
    P (docLayout f.doc f.doc.layout ++ f.headerLayout implied)
  documented_type : ∀ (t : TypeDecl) (implied : ModifierSet), P (t.headerLayout implied) →
    P (docLayout t.doc t.doc.layout ++ t.headerLayout implied)

/-- In a slot that is not for literals an argument is one text or a fault. -/
theorem Argument.exists_step {s : Slot} (hs : s ≠ .literal) (a : Argument) :
    ∃ step, a.placed s = [step] ∧ step ≠ .beginDoc ∧ step ≠ .endDoc := by
  -- an argument with a literal layout and a text of its own
  have hplaced : ∀ (literal : Layout) (text : Except LayoutFault String),
      ∃ step, SwiftDecl.placed literal text s = [step] ∧ step ≠ .beginDoc ∧ step ≠ .endDoc := by
    intro literal text
    cases s with
    | literal => exact absurd rfl hs
    | type => exact ⟨_, rfl, by simp, by simp⟩
    | _ => cases text <;> exact ⟨_, rfl, by simp, by simp⟩
  cases a with
  | type t =>
    -- A type has a text in its own slot as well, so it is no case of the lemma.
    rw [Argument.placed]
    cases s with
    | literal => exact absurd rfl hs
    | _ => exact ⟨_, rfl, by simp, by simp⟩
  | null =>
    -- `nil` is written in the slot for strings.
    rw [Argument.placed]
    cases s with
    | literal => exact absurd rfl hs
    | _ => exact ⟨_, rfl, by simp, by simp⟩
  | _ =>
    rw [Argument.placed]
    exact hplaced _ _

namespace Layout.Composes.AtAnyDepth

variable {P : Layout → Prop}

/-- Parts in order, from the arguments of their slots. -/
theorem fill (hP : AtAnyDepth P) {parts : List Part} {arguments : List Argument}
    (h : ∀ a ∈ arguments, P (a.placed .literal)) :
    P (SwiftDecl.fill parts (Argument.placedAll arguments)) := by
  induction parts generalizing arguments with
  | nil => exact hP.nil
  | cons p parts ih =>
    cases p with
    | text s =>
      rw [SwiftDecl.fill]
      exact hP.cons s (ih h)
    | directive d =>
      -- A directive shifts the level and takes no argument.
      have hd : P d.layout := by
        cases d
        all_goals exact hP.step _ (by simp) (by simp)
      rw [SwiftDecl.fill]
      exact hP.append hd (ih h)
    | slot s =>
      cases arguments with
      | nil =>
        -- an argument is missing, which is a fault
        exact hP.step _ (by simp) (by simp)
      | cons a rest =>
        have hrest := ih fun b hb => h b (List.mem_cons_of_mem a hb)
        rw [Argument.placedAll, SwiftDecl.fill]
        refine hP.append ?_ hrest
        -- Only in the slot for literals is an argument more than one step.
        by_cases hs : s = .literal
        · rw [hs]
          exact h a List.mem_cons_self
        · obtain ⟨step, hplaced, hbegin, hend⟩ := a.exists_step hs
          rw [hplaced]
          exact hP.step step hbegin hend

mutual

theorem argument (hP : AtAnyDepth P) : ∀ a : Argument, P (a.placed .literal)
  | .code c => by
    rw [Argument.placed]
    exact hP.code c
  | .parameter ⟨_, _, _, _, default, _⟩ => by
    rw [Argument.placed]
    exact hP.parameter (hP.optional_code default) true
  | .function f => by
    rw [Argument.placed]
    exact hP.function f {} false
  | .typeDecl t => by
    rw [Argument.placed]
    exact hP.type t {}
  | .text _ | .integer _ | .float _ | .boolean _ | .null | .type _ | .attribute _
  | .modifier _ => by
    rw [Argument.placed]
    exact hP.text _

theorem arguments (hP : AtAnyDepth P) : ∀ as : List Argument, ∀ a ∈ as, P (a.placed .literal)
  | [] => by simp
  | a :: as => List.forall_mem_cons.2 ⟨hP.argument a, hP.arguments as⟩

/-- A block of code. -/
theorem code (hP : AtAnyDepth P) : ∀ c : Code, P c.layout
  | ⟨parts, arguments⟩ => by
    rw [Code.layout]
    exact hP.fill (hP.arguments arguments)

theorem optional_code (hP : AtAnyDepth P) : ∀ o : Option Code, ∀ c, o = some c → P c.layout
  | none, _, h => by cases h
  | some c, _, h => by
    cases h
    exact hP.code c

theorem defaults (hP : AtAnyDepth P) : ∀ ps : List Parameter,
    ∀ p ∈ ps, ∀ c, p.default = some c → P c.layout
  | [] => by simp
  | ⟨_, _, _, _, default, _⟩ :: ps =>
    List.forall_mem_cons.2 ⟨hP.optional_code default, hP.defaults ps⟩

/-- A function. -/
theorem function (hP : AtAnyDepth P) : ∀ (f : FunctionDecl) (implied : ModifierSet)
    (concise : Bool), P (f.layout implied concise)
  | ⟨name, doc, attributes, tags, modifiers, ⟨typeVariables, parameters, returns, isThrowing,
      isAsync, isFailable⟩, localTypes, body⟩, implied, concise => by
    -- No recursion into its own documentation: whatever is in it, the header follows.
    have hheader := hP.functionHeader (f := ⟨name, doc, attributes, tags, modifiers,
      ⟨typeVariables, parameters, returns, isThrowing, isAsync, isFailable⟩, localTypes, body⟩)
      (hP.defaults parameters) implied
    have htypes := hP.types localTypes
    have hbody := hP.optional_code body
    exact hP.toComposes.function (hP.documented_function _ implied hheader)
      (hP.statements htypes hbody) concise

theorem functions (hP : AtAnyDepth P) : ∀ fs : List FunctionDecl,
    ∀ f ∈ fs, P (f.layout .internal false)
  | [] => by simp
  | f :: fs => List.forall_mem_cons.2 ⟨hP.function f .internal false, hP.functions fs⟩

/-- A type. -/
theorem type (hP : AtAnyDepth P) : ∀ (t : TypeDecl) (implied : ModifierSet), P (t.layout implied)
  | ⟨kind, name, doc, attributes, tags, modifiers, superTypes, functions⟩, implied => by
    have hheader := hP.onlyTexts (TypeDecl.onlyTexts_header
      ⟨kind, name, doc, attributes, tags, modifiers, superTypes, functions⟩ implied)
    exact hP.toComposes.type (hP.documented_type _ implied hheader) (hP.functions functions)

theorem types (hP : AtAnyDepth P) : ∀ ts : List TypeDecl, ∀ t ∈ ts, P (t.layout {})
  | [] => by simp
  | t :: ts => List.forall_mem_cons.2 ⟨hP.type t {}, hP.types ts⟩

end

end Layout.Composes.AtAnyDepth

end SwiftDecl
