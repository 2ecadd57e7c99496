import SwiftDecl.Proofs.Draft.Nesting

/-!
# Indentation of declarations

The text of a tidy function or type is indented by its braces. A declaration is tidy if what is
supplied to it has no braces and keeps to its lines, if its body is made by statements and control
flows that nest, and if the types and functions in it are tidy.

Each part of a declaration is written from one state of the page to another: the header within one
line, documentation and attributes on lines of their own, and the body as a block in braces. The
proof goes along the recursion that writes functions and types in each other.
-/

namespace SwiftDecl

open Layout Text Page

/-! ## Names -/

/-- A name is written on one line, escaped or not. -/
theorem inline_escapeReserved {name : String} (h : Inline name) : Inline (escapeReserved name) := by
  have htick : Inline "`" := ⟨by decide, by decide⟩
  unfold escapeReserved
  split
  · exact (htick.append h).append htick
  · exact h

/-- A function's name is written on one line. -/
theorem inline_printedName {name : String} (h : Inline name) :
    Inline (FunctionKind.printedName name) := by
  unfold FunctionKind.printedName
  simp only
  split
  · exact h
  · split
    · unfold FunctionKind.displayName FunctionKind.afterOperatorMark?
      split
      · refine h.of_subset ?_
        rw [Option.getD_some, String.toList_ofList]
        exact List.drop_subset _ _
      · exact h
    · exact inline_escapeReserved h

/-! ## Tidy declarations -/

/-- A block that is made of plain templates. It is filled to a text without braces, of which no line
starts with white space. -/
structure Code.Tidy (c : Code) : Prop where
  plain : c.Plain
  text : ∀ s, c.text = .ok s → Clean s

/-- A block is tidy if the text that it is filled to is clean. -/
theorem Code.Tidy.of_text {c : Code} {s : String} (hplain : c.Plain) (htext : c.text = .ok s)
    (hs : Clean s) : c.Tidy where
  plain := hplain
  text := by
    intro s' htext'
    rw [htext] at htext'
    cases htext'
    exact hs

theorem Code.tidy_empty : ({} : Code).Tidy :=
  .of_text (s := "") .empty rfl ⟨by decide, by decide⟩

/-- A parameter whose name, label and type stand on one line, and whose default is tidy. -/
structure Parameter.Tidy (p : Parameter) : Prop where
  name : Inline p.name
  type : Inline p.type.text
  label : ∀ label, p.label = some label → Inline label
  default : ∀ c, p.default = some c → c.Tidy

/-- A signature whose names and types stand on one line. -/
structure Signature.Tidy (s : Signature) : Prop where
  typeVariables : ∀ v ∈ s.typeVariables, Inline v.name ∧ ∀ bound ∈ v.bounds, Inline bound.text
  parameters : ∀ p ∈ s.parameters, p.Tidy
  returns : ∀ type, s.returns = some type → Inline type.text

mutual

/-- A function whose names, types and attributes stand on one line, and whose documentation,
defaults and statements have no braces and start no line with white space. Its body is made by
statements and control flows that nest, and its local types are tidy. -/
inductive FunctionDecl.Tidy : FunctionDecl → Prop where
  | mk {f : FunctionDecl} (name : Inline f.name) (doc : f.doc.Tidy)
      (attributes : ∀ a ∈ f.attributes, Inline a.text) (signature : f.signature.Tidy)
      (body : ∀ b, f.body = some b → b.Flowing 0)
      (localTypes : ∀ t ∈ f.localTypes, TypeDecl.Tidy t) : FunctionDecl.Tidy f

/-- A type whose names, types and attributes stand on one line, and whose documentation has no
braces and starts no line with white space. Its member functions are tidy. -/
inductive TypeDecl.Tidy : TypeDecl → Prop where
  | mk {t : TypeDecl} (name : Inline t.name) (doc : t.doc.Tidy)
      (attributes : ∀ a ∈ t.attributes, Inline a.text)
      (superTypes : ∀ type ∈ t.superTypes, Inline type.text)
      (functions : ∀ f ∈ t.functions, FunctionDecl.Tidy f) : TypeDecl.Tidy t

end

/-! ## Headers -/

section Headers

variable {P : Page → Prop} {k : Nat}

/-- A part that can be left out. -/
theorem Layout.Takes.optional {Q : Page → Prop} {a : Layout} {p : Prop} [Decidable p]
    (h : Takes P a Q) (hskip : ∀ q, P q → Q q) : Takes P (if p then a else []) Q := by
  split
  · exact h
  · exact takes_nil.weaken hskip

/-- Documentation leaves a line start. -/
theorem doc_takes {doc : Code} (h : doc.Tidy) :
    Takes (Opened k) (docLayout doc doc.layout) (Opened k) := by
  unfold docLayout
  split
  · exact takes_nil
  · have htexts := h.plain.onlyTexts.2
    exact htexts.takes_doc String.toList_ofList (h.text _ htexts.text_eq)

/-- An attribute starts with its sign. -/
theorem Attribute.exists_text (a : Attribute) : ∃ cs, a.text.toList = '@' :: cs := by
  have hat : "@".toList = ['@'] := rfl
  unfold Attribute.text
  split
  · exact ⟨a.name.toList, by rw [String.toList_append, hat, List.singleton_append]⟩
  · refine ⟨(a.name ++ "(" ++ ", ".intercalate a.arguments ++ ")").toList, ?_⟩
    simp only [String.toList_append, hat, List.append_assoc, List.cons_append, List.nil_append]

/-- Each attribute stands on a line of its own. -/
theorem attributes_takes {attributes : List Attribute} (h : ∀ a ∈ attributes, Inline a.text) :
    Takes (Opened k) (attributesLayout attributes) (Opened k) := by
  unfold attributesLayout
  induction attributes with
  | nil => exact takes_nil
  | cons a rest ih =>
    have hrest := ih fun b hb => h b (List.mem_cons_of_mem a hb)
    obtain ⟨cs, hcs⟩ := a.exists_text
    have hline : Takes (Opened k) ([.text a.text] ++ [.text "\n"]) (Opened k) :=
      (((takes_word (h a List.mem_cons_self) ⟨'@', cs, hcs, by decide⟩).strengthen
        fun _ hp => hp.toSettled).weaken fun _ hp => hp.toSettled).append takes_newline
    rw [List.flatMap_cons]
    exact hline.append hrest

/-- The keyword of a modifier stands on one line, and starts with a letter. -/
theorem keyword_inline (m : Modifier) :
    Inline m.keyword ∧ ∃ c cs, m.keyword.toList = c :: cs ∧ isBlank c = false := by
  cases m
  all_goals exact ⟨⟨by decide, by decide⟩, _, _, rfl, by decide⟩

/-- Modifiers start a line or leave its start. -/
theorem modifiers_takes (modifiers implied : ModifierSet) :
    Takes (Settled k) (modifiersLayout modifiers implied) (Settled k) := by
  unfold modifiersLayout
  induction modifiers.toList.filter fun m => m ∉ implied with
  | nil => exact takes_nil
  | cons m rest ih =>
    obtain ⟨hline, hfirst⟩ := keyword_inline m
    have hword : Takes (Settled k) ([.text m.keyword] ++ [.text " "]) (Within k) :=
      (takes_word hline hfirst).append (takes_inline ⟨by decide, by decide⟩)
    rw [List.flatMap_cons]
    exact (hword.weaken fun _ hp => hp.toSettled).append ih

/-- Within a line modifiers go on with it. -/
theorem modifiers_takes_within (modifiers implied : ModifierSet) :
    Takes (Within k) (modifiersLayout modifiers implied) (Within k) := by
  unfold modifiersLayout
  induction modifiers.toList.filter fun m => m ∉ implied with
  | nil => exact takes_nil
  | cons m rest ih =>
    have hword : Takes (Within k) ([.text m.keyword] ++ [.text " "]) (Within k) :=
      (takes_inline (keyword_inline m).1).append (takes_inline ⟨by decide, by decide⟩)
    rw [List.flatMap_cons]
    exact hword.append ih

/-- What stands before the header of a declaration leaves a line start or starts one. -/
theorem front_takes {doc : Code} (hdoc : doc.Tidy) {attributes : List Attribute}
    (hattributes : ∀ a ∈ attributes, Inline a.text) (modifiers implied : ModifierSet) :
    Takes (Opened k)
      (docLayout doc doc.layout ++ attributesLayout attributes ++ modifiersLayout modifiers implied)
      (Settled k) :=
  ((doc_takes hdoc).append (attributes_takes hattributes)).append
    ((modifiers_takes modifiers implied).strengthen fun _ hp => hp.toSettled)

/-- Generic parameters go on with a line. -/
theorem typeVariables_takes {vs : List TypeVariable}
    (h : ∀ v ∈ vs, Inline v.name ∧ ∀ bound ∈ v.bounds, Inline bound.text) :
    Takes (Within k) (typeVariablesLayout vs) (Within k) := by
  unfold typeVariablesLayout
  split
  · exact takes_nil
  · have hv : ∀ s ∈ vs.map TypeVariable.text, Inline s := by
      intro s hs
      obtain ⟨v, hv, rfl⟩ := List.mem_map.1 hs
      unfold TypeVariable.text
      split
      · exact (h v hv).1
      · refine ((h v hv).1.append ⟨by decide, by decide⟩).append ?_
        refine Inline.intercalate ⟨by decide, by decide⟩ fun b hb => ?_
        obtain ⟨bound, hbound, rfl⟩ := List.mem_map.1 hb
        exact (h v hv).2 bound hbound
    have hangle : Inline "<" := ⟨by decide, by decide⟩
    exact takes_inline ((hangle.append (Inline.intercalate ⟨by decide, by decide⟩ hv)).append
      ⟨by decide, by decide⟩)

/-- A default value can end the line, or not. -/
theorem default_takes {default : Option Code} (h : ∀ c, default = some c → c.Tidy) :
    Takes (Within k) (Code.defaultLayout default) (Settled k) := by
  cases default with
  | none =>
    rw [Code.defaultLayout]
    exact takes_nil.weaken fun _ hp => hp.toSettled
  | some c =>
    have hc := h c rfl
    have htexts := hc.plain.onlyTexts.2
    have hvalue : Takes (Settled k) (c.layout ++ []) (Settled k) :=
      htexts.takes String.toList_ofList (takes_clean (hc.text _ htexts.text_eq))
    rw [List.append_nil] at hvalue
    have hequals : Takes (Within k) [.text " = "] (Within k) := takes_inline ⟨by decide, by decide⟩
    rw [Code.defaultLayout]
    exact (hequals.weaken fun _ hp => hp.toSettled).cons hvalue

/-- A parameter goes on with a line. -/
theorem parameter_takes {p : Parameter} (h : p.Tidy) (withType : Bool) :
    Takes (Within k) (p.layout withType) (Settled k) := by
  obtain ⟨hname, htype, hlabel, hdefault⟩ := h
  obtain ⟨name, type, label, modifiers, default, variadic⟩ := p
  simp only at hname htype hlabel hdefault
  unfold Parameter.layout
  -- Only the default value can leave the line.
  have hrest : Takes (Within k) (if withType then
      .text ": " :: modifiersLayout modifiers {} ++ [.text type.text] ++
        (if variadic then [.text "..."] else []) ++ Code.defaultLayout default
      else []) (Settled k) := by
    refine Takes.optional ?_ fun _ hq => hq.toSettled
    have hcolon : Takes (Within k) [.text ": "] (Within k) := takes_inline ⟨by decide, by decide⟩
    have hdots : Takes (Within k) (if variadic then [.text "..."] else []) (Within k) :=
      Takes.optional (takes_inline ⟨by decide, by decide⟩) fun _ hq => hq
    have hmodifiers := modifiers_takes_within (k := k) modifiers {}
    exact (((hcolon.append hmodifiers).append (takes_inline htype)).append hdots).append
      (default_takes hdefault)
  have hname' := (takes_inline (inline_escapeReserved hname)).cons hrest
  -- The label is on the line of the name.
  cases label with
  | none => exact hname'
  | some l =>
    have hfront : Takes (Within k) (if l = name then [] else [.text (l ++ " ")]) (Within k) := by
      split
      · exact takes_nil
      · exact takes_inline ((hlabel l rfl).append ⟨by decide, by decide⟩)
    exact hfront.append hname'

/-- More parameters go on with a line, whether the default before them ended it or not. -/
theorem parametersRest_takes {ps : List Parameter} (h : ∀ p ∈ ps, p.Tidy) (withTypes : Bool) :
    Takes (Settled k) (Parameter.layoutRest ps withTypes) (Settled k) := by
  induction ps with
  | nil =>
    rw [Parameter.layoutRest]
    exact takes_nil
  | cons p ps ih =>
    have hcomma : Takes (Settled k) [.text ", "] (Within k) :=
      takes_word ⟨by decide, by decide⟩ ⟨',', [' '], rfl, by decide⟩
    rw [Parameter.layoutRest]
    exact hcomma.cons ((parameter_takes (h p List.mem_cons_self) withTypes).append
      (ih fun q hq => h q (List.mem_cons_of_mem p hq)))

/-- Parameters in parentheses go on with a line. -/
theorem parameters_takes {ps : List Parameter} (h : ∀ p ∈ ps, p.Tidy) (withTypes : Bool) :
    Takes (Within k) (Parameter.layoutAll ps withTypes) (Within k) := by
  have hopen : Takes (Within k) [.text "("] (Within k) := takes_inline ⟨by decide, by decide⟩
  have hclose : Takes (Settled k) [.text ")"] (Within k) :=
    takes_word ⟨by decide, by decide⟩ ⟨')', [], rfl, by decide⟩
  cases ps with
  | nil =>
    rw [Parameter.layoutAll]
    exact hopen.cons (hclose.strengthen fun _ hp => hp.toSettled)
  | cons p ps =>
    have hfirst := parameter_takes (k := k) (h p List.mem_cons_self) withTypes
    have hrest :=
      parametersRest_takes (k := k) (fun q hq => h q (List.mem_cons_of_mem p hq)) withTypes
    rw [Parameter.layoutAll]
    exact hopen.cons ((hfirst.append hrest).append hclose)

/-- A signature goes on with the line of its name. -/
theorem signature_takes {s : Signature} (h : s.Tidy) {name : String}
    (hname : Takes P [.text name] (Within k)) (emptyParentheses withTypes : Bool) :
    Takes P (s.layout (some name) emptyParentheses withTypes) (Within k) := by
  obtain ⟨htypeVariables, hparameters, hreturns⟩ := h
  obtain ⟨typeVariables, parameters, returns, isThrowing, isAsync, isFailable⟩ := s
  simp only at htypeVariables hparameters hreturns
  unfold Signature.layout
  have hword : ∀ (b : Bool) (s : String), Inline s →
      Takes (Within k) (if b then [.text s] else []) (Within k) :=
    fun b s hs => Takes.optional (takes_inline hs) fun _ hq => hq
  have hparentheses : Takes (Within k) (if parameters.isEmpty && !emptyParentheses then []
      else Parameter.layoutAll parameters withTypes) (Within k) := by
    split
    · exact takes_nil
    · exact parameters_takes hparameters withTypes
  have hsigned := ((((hname.append (hword isFailable "?" ⟨by decide, by decide⟩)).append
    (typeVariables_takes htypeVariables)).append hparentheses).append
    (hword isAsync " async" ⟨by decide, by decide⟩)).append
    (hword isThrowing " throws" ⟨by decide, by decide⟩)
  -- The arrow and the type stay on the line.
  cases returns with
  | none => exact hsigned.append takes_nil
  | some type =>
    have harrow : Takes (Within k) [.text " -> "] (Within k) := takes_inline ⟨by decide, by decide⟩
    have hreturn : Takes (Within k) (if type.isVoid then [] else [.text " -> ", .text type.text])
        (Within k) := by
      split
      · exact takes_nil
      · exact harrow.cons (takes_inline (hreturns type rfl))
    exact hsigned.append hreturn

/-- The kinds that are written without the word `func` have reserved names. -/
theorem FunctionKind.exists_reserved {name : String}
    (h : (FunctionKind.ofName name).isKeywordless = true) :
    ∃ kind, FunctionKind.reservedName? kind = some name := by
  unfold FunctionKind.ofName at h
  split at h
  · next kind hkind => exact ⟨kind, by simpa using List.find?_some hkind⟩
  · split at h <;> cases h

/-- The kinds that are written without the word `func` have names that start with a letter. -/
theorem keywordless_name {name : String} (h : (FunctionKind.ofName name).isKeywordless = true) :
    ∃ c cs, (FunctionKind.printedName name).toList = c :: cs ∧ isBlank c = false := by
  obtain ⟨kind, hkind⟩ := FunctionKind.exists_reserved h
  cases kind
  all_goals
    cases hkind
  all_goals exact ⟨_, _, rfl, by decide⟩

/-- A function starts with its keyword, if it has one, and its name. -/
theorem functionHeader_takes {name : String} (hname : Inline name) {signature : Signature}
    (hsignature : signature.Tidy) (emptyParentheses withTypes : Bool) :
    Takes (Settled k)
      ((if (FunctionKind.ofName name).isKeywordless then [] else [.text "func "]) ++
        signature.layout (some (FunctionKind.printedName name)) emptyParentheses withTypes)
      (Within k) := by
  have hprinted := inline_printedName hname
  split
  · next hkeywordless =>
    exact takes_nil.append
      (signature_takes hsignature (takes_word hprinted (keywordless_name hkeywordless)) _ _)
  · have hfunc : Takes (Settled k) [.text "func "] (Within k) :=
      takes_word ⟨by decide, by decide⟩ ⟨'f', ['u', 'n', 'c', ' '], rfl, by decide⟩
    exact hfunc.append (signature_takes hsignature (takes_inline hprinted) _ _)

end Headers

/-! ## Functions and types -/

/-- Where a function ends: within the line of its header if it has no body, and else on a new
line. -/
def FunctionDecl.Ends (f : FunctionDecl) (k : Nat) (p : Page) : Prop :=
  if f.isAbstract then Within k p else Opened k p

/-- A member function ends its line in any case. -/
theorem member_takes {f : FunctionDecl} {k : Nat} {layout : Layout}
    (h : Takes (Opened k) layout (f.Ends k)) :
    Takes (Opened k) (layout ++ if f.isAbstract then [.text "\n"] else []) (Opened k) := by
  refine h.append ?_
  unfold FunctionDecl.Ends
  cases f.isAbstract with
  | true => exact takes_newline.strengthen fun _ hp => Within.toSettled hp
  | false => exact takes_nil

/-- A body of statements and control flows that nest. -/
theorem body_takes {body : Option Code} (h : ∀ b, body = some b → b.Flowing 0) {k : Nat} :
    Takes (Opened k) (Code.bodyLayout body) (Opened k) := by
  cases body with
  | none =>
    rw [Code.bodyLayout]
    exact takes_nil
  | some b =>
    rw [Code.bodyLayout]
    exact (h b rfl).takes.2 k

/-- What stands in braces is one level deeper. -/
theorem block_takes {k : Nat} {inner : Layout} (h : Takes (Opened (k + 1)) inner (Opened (k + 1))) :
    Takes (Within k) ([.text " \x7b\n", .indent] ++ inner ++ [.unindent, .text "\x7d\n"])
      (Opened k) :=
  (takes_open.append h).append takes_close

mutual

/-- A tidy function is written from the start of a line, at the depth that it finds. -/
theorem FunctionDecl.takes : ∀ (f : FunctionDecl), f.Tidy → ∀ (implied : ModifierSet) (k : Nat),
    Takes (Opened k) (f.layout implied false) (f.Ends k)
  | ⟨name, doc, attributes, tags, modifiers, signature, localTypes, body⟩, htidy, implied, k => by
    obtain ⟨hname, hdoc, hattributes, hsignature, hbody, htypes⟩ := htidy
    have hheader := (front_takes hdoc hattributes modifiers implied).append
      (functionHeader_takes hname hsignature (k := k)
        (!(FunctionKind.ofName name).hidesEmptyParameters)
        (!(FunctionKind.ofName name).hidesParameterTypes))
    have hblock := block_takes
      ((TypeDecl.localLayout_takes localTypes htypes (k + 1)).append (body_takes hbody))
    have hend : Takes (Within k) (if body.isNone then [] else
        [.text " \x7b\n", .indent] ++ TypeDecl.localLayout localTypes ++ Code.bodyLayout body ++
          [.unindent, .text "\x7d\n"])
        (FunctionDecl.Ends
          ⟨name, doc, attributes, tags, modifiers, signature, localTypes, body⟩ k) := by
      unfold FunctionDecl.Ends FunctionDecl.isAbstract
      cases body with
      | none => exact takes_nil
      | some b => simpa using hblock
    rw [FunctionDecl.layout]
    simp only [Bool.and_false, Bool.false_and, Bool.false_eq_true, ↓reduceIte]
    simpa only [List.append_assoc] using hheader.append hend

theorem TypeDecl.localLayout_takes : ∀ (ts : List TypeDecl), (∀ t ∈ ts, t.Tidy) → ∀ k : Nat,
    Takes (Opened k) (TypeDecl.localLayout ts) (Opened k)
  | [], _, k => by
    rw [TypeDecl.localLayout]
    exact takes_nil
  | t :: ts, h, k => by
    rw [TypeDecl.localLayout]
    have hfirst := TypeDecl.takes t (h t List.mem_cons_self) {} k
    have hmore := TypeDecl.layoutMore_takes ts (fun u hu => h u (List.mem_cons_of_mem t hu)) k
    exact takes_blank.cons ((hfirst.append hmore).append takes_blank)

theorem TypeDecl.layoutMore_takes : ∀ (ts : List TypeDecl), (∀ t ∈ ts, t.Tidy) → ∀ k : Nat,
    Takes (Opened k) (TypeDecl.layoutMore ts) (Opened k)
  | [], _, k => by
    rw [TypeDecl.layoutMore]
    exact takes_nil
  | t :: ts, h, k => by
    rw [TypeDecl.layoutMore]
    have hfirst := TypeDecl.takes t (h t List.mem_cons_self) {} k
    have hmore := TypeDecl.layoutMore_takes ts (fun u hu => h u (List.mem_cons_of_mem t hu)) k
    exact takes_blank.cons (hfirst.append hmore)

/-- A tidy type is written from the start of a line to the start of another. -/
theorem TypeDecl.takes : ∀ (t : TypeDecl), t.Tidy → ∀ (implied : ModifierSet) (k : Nat),
    Takes (Opened k) (t.layout implied) (Opened k)
  | ⟨kind, name, doc, attributes, tags, modifiers, superTypes, functions⟩, htidy, implied, k => by
    obtain ⟨hname, hdoc, hattributes, hsupers, hfunctions⟩ := htidy
    -- The members are nested, so the theorem for functions is called and not an induction
    -- hypothesis.
    have hmembers := FunctionDecl.layoutMembers_takes functions hfunctions (k + 1)
    have hline : Inline (kind.keyword ++ " " ++ escapeReserved name) := by
      refine Inline.append ?_ (inline_escapeReserved hname)
      cases kind <;> exact ⟨by decide, by decide⟩
    have hfirst : ∃ c cs, (kind.keyword ++ " " ++ escapeReserved name).toList = c :: cs ∧
        isBlank c = false := by
      rw [String.toList_append, String.toList_append, List.append_assoc]
      cases kind <;> exact ⟨_, _, rfl, by decide⟩
    -- The supertypes stay on the line of the name.
    have hsuper : Takes (Within k) (if superTypes.isEmpty then []
        else [.text ": ", .text (", ".intercalate (superTypes.map TypeName.text))]) (Within k) := by
      split
      · exact takes_nil
      · have hcolon : Takes (Within k) [.text ": "] (Within k) :=
          takes_inline ⟨by decide, by decide⟩
        refine hcolon.cons (takes_inline (Inline.intercalate ⟨by decide, by decide⟩ ?_))
        intro s hs
        obtain ⟨type, htype, rfl⟩ := List.mem_map.1 hs
        exact hsupers type htype
    have hheader := (front_takes hdoc hattributes modifiers implied).append
      ((takes_word hline hfirst (k := k)).cons hsuper)
    rw [TypeDecl.layout]
    simpa only [List.append_assoc, List.cons_append] using hheader.append (block_takes hmembers)

theorem FunctionDecl.layoutMembers_takes : ∀ (fs : List FunctionDecl), (∀ f ∈ fs, f.Tidy) →
    ∀ k : Nat, Takes (Opened k) (FunctionDecl.layoutMembers fs) (Opened k)
  | [], _, k => by
    rw [FunctionDecl.layoutMembers]
    exact takes_nil
  | f :: fs, h, k => by
    rw [FunctionDecl.layoutMembers]
    have hfirst := FunctionDecl.takes f (h f List.mem_cons_self) .internal k
    have hmore := FunctionDecl.layoutMoreMembers_takes fs
      (fun g hg => h g (List.mem_cons_of_mem f hg)) k
    exact (member_takes hfirst).append hmore

theorem FunctionDecl.layoutMoreMembers_takes : ∀ (fs : List FunctionDecl), (∀ f ∈ fs, f.Tidy) →
    ∀ k : Nat, Takes (Opened k) (FunctionDecl.layoutMoreMembers fs) (Opened k)
  | [], _, k => by
    rw [FunctionDecl.layoutMoreMembers]
    exact takes_nil
  | f :: fs, h, k => by
    rw [FunctionDecl.layoutMoreMembers]
    have hfirst := FunctionDecl.takes f (h f List.mem_cons_self) .internal k
    have hmore := FunctionDecl.layoutMoreMembers_takes fs
      (fun g hg => h g (List.mem_cons_of_mem f hg)) k
    exact takes_blank.cons ((member_takes hfirst).append hmore)

end

/-! ## Functions that are built -/

/-- The calls on a new draft are all accepted, and what they do to its body nests. The name, and
what the calls bring in beside the body, is tidy. -/
structure Factory.MadeTidily (factory : Factory) (calls : List DraftCall) : Prop where
  nest : DraftCall.AllNest 0 calls 0
  accepted : ∀ o ∈ factory.draft.outcomes calls, o = none
  name : Inline factory.name
  doc : (factory.reach calls).doc.Tidy
  attributes : ∀ a ∈ (factory.reach calls).attributes, Inline a.text
  signature : (factory.reach calls).signature.Tidy
  localTypes : ∀ t ∈ (factory.reach calls).localTypes, t.Tidy

/-- What is made tidily is tidy. -/
theorem Factory.MadeTidily.tidy {factory : Factory} {calls : List DraftCall}
    (h : factory.MadeTidily calls) : (factory.reach calls).toFunction.Tidy := by
  have hempty : factory.draft.body.Flowing 0 := by
    rw [factory.draft_eq]
    exact .empty
  have hflowing : (factory.reach calls).body.Flowing 0 :=
    FunctionDraft.flowing_of_run h.nest hempty h.accepted
  have hname : Inline (factory.reach calls).name := by
    rw [FunctionDraft.reach_name]
    exact h.name
  refine .mk hname h.doc h.attributes h.signature ?_ h.localTypes
  intro b hb
  have hbody : (if (factory.reach calls).isAbstract then none
      else some (factory.reach calls).body) = some b := hb
  split at hbody
  · cases hbody
  · cases hbody
    exact hflowing

/-- Tidy functions and types have a text. Its braces are balanced, and each line of it that is not
empty is preceded by exactly as many units of indentation as there are braces open on the lines
before it, less one if it starts with a closing brace. A function is tidy if it is built by accepted
calls that nest, from tidy parts. -/
theorem text_indented_by_braces :
    (∀ f : FunctionDecl, f.Tidy →
      ∃ s, f.text = .ok s ∧ Balanced s.toList ∧ IndentedByBraces "  " s.toList) ∧
    (∀ t : TypeDecl, t.Tidy →
      ∃ s, t.text = .ok s ∧ Balanced s.toList ∧ IndentedByBraces "  " s.toList) ∧
    ∀ (factory : Factory) (calls : List DraftCall), factory.MadeTidily calls →
      ∃ f, (factory.reach calls).build = .ok f ∧ f.Tidy := by
  refine ⟨?_, ?_, ?_⟩
  · intro f hf
    refine ((FunctionDecl.takes f hf .internal 0).weaken ?_).text_indented
    intro p hp
    unfold FunctionDecl.Ends at hp
    split at hp
    · exact hp.toSettled
    · exact hp.toSettled
  · intro t ht
    exact ((TypeDecl.takes t ht {} 0).weaken fun _ hp => hp.toSettled).text_indented
  · intro factory calls h
    exact ⟨_, (FunctionDraft.grammatical_of_reach factory calls).build_eq, h.tidy⟩

/-- A class with a documented function and an abstract one, and a function with the class in its
body. -/
theorem engine_indented_by_braces :
    let runCalls : List DraftCall := [
      .addDoc (.template "Runs %L.\n\nSlowly." [.text "twice"]),
      .beginControlFlow "if" "ready" [],
      .addStatement "go(%S)" [.text "now"],
      .nextControlFlow "else" "" [],
      .addStatement "wait()" [],
      .endControlFlow]
    let run := ((Factory.function "run").reach runCalls).toFunction
    let stop := ((Factory.abstractFunction "stop").reach []).toFunction
    let engine : TypeDecl := {
      kind := .classType, name := "Engine", doc := {}, functions := [run, stop] }
    let makeCalls : List DraftCall := [
      .addLocalTypes [engine], .addStatement "return %T()" [.type (.named "Engine")]]
    (engine.Tidy ∧ (Factory.function "make").MadeTidily makeCalls) ∧
      (∃ s, engine.text = .ok s ∧ Balanced s.toList ∧ IndentedByBraces "  " s.toList) ∧
      ∃ f s, ((Factory.function "make").reach makeCalls).build = .ok f ∧ f.text = .ok s ∧
        Balanced s.toList ∧ IndentedByBraces "  " s.toList := by
  intro runCalls run stop engine makeCalls
  have hif : Code.CleanHeader "if" "ready" [] := by
    have hplain : Template.Plain "ready" [] := ⟨by intro d; cases d <;> decide, by simp⟩
    have hheader : Code.ofTemplate (Code.headerTemplate "if" "ready") [] =
        .ok { parts := [.text "if ready \x7b\n"] } := rfl
    exact .of_text (s := "if ready") (by decide) hplain hheader rfl ⟨by decide, by decide⟩
      ⟨by decide, by decide⟩
  have helse : Code.CleanHeader "else" "" [] := by
    have hplain : Template.Plain "" [] := ⟨by intro d; cases d <;> decide, by simp⟩
    have hheader : Code.ofTemplate (Code.headerTemplate "else" "") [] =
        .ok { parts := [.text "else \x7b\n"] } := rfl
    exact .of_text (s := "else") (by decide) hplain hheader rfl ⟨by decide, by decide⟩
      ⟨by decide, by decide⟩
  have hgo : Code.CleanStatement "go(%S)" [.text "now"] := by
    have hplain : Template.Plain "go(%S)" [.text "now"] :=
      ⟨by intro d; cases d <;> decide, by simp [Argument.IsTextual]⟩
    have hadded : Code.ofTemplate "go(%S)" [.text "now"] =
        .ok { parts := [.text "go(", .slot .string, .text ")"], arguments := [.text "now"] } := rfl
    exact .of_text (s := "go(\"now\")") hplain hadded rfl ⟨by decide, by decide⟩
  have hwait : Code.CleanStatement "wait()" [] := by
    have hplain : Template.Plain "wait()" [] := ⟨by intro d; cases d <;> decide, by simp⟩
    have hadded : Code.ofTemplate "wait()" [] = .ok { parts := [.text "wait()"] } := rfl
    exact .of_text (s := "wait()") hplain hadded rfl ⟨by decide, by decide⟩
  have hreturn : Code.CleanStatement "return %T()" [.type (.named "Engine")] := by
    have hplain : Template.Plain "return %T()" [.type (.named "Engine")] :=
      ⟨by intro d; cases d <;> decide, by simp [Argument.IsTextual]⟩
    have hadded : Code.ofTemplate "return %T()" [.type (.named "Engine")] =
        .ok { parts := [.text "return ", .slot .type, .text "()"]
              arguments := [.type (.named "Engine")] } := rfl
    exact .of_text (s := "return Engine()") hplain hadded rfl ⟨by decide, by decide⟩
  have hdoc : Code.Tidy { parts := [.text "Runs ", .slot .literal, .text ".\n\nSlowly."]
                          arguments := [.text "twice"] } := by
    have hplain : Template.Plain "Runs %L.\n\nSlowly." [.text "twice"] :=
      ⟨by intro d; cases d <;> decide, by simp [Argument.IsTextual]⟩
    exact .of_text (s := "Runs twice.\n\nSlowly.") (.add .empty hplain rfl) rfl
      ⟨by decide, by decide⟩
  have hsignature : Signature.Tidy {} := ⟨by simp, by simp, by simp⟩
  have hrun : (Factory.function "run").MadeTidily runCalls :=
    { nest := .cons (.spares trivial) (.cons (.beginControlFlow hif) (.cons (.addStatement hgo)
        (.cons (.nextControlFlow helse) (.cons (.addStatement hwait)
          (.cons .endControlFlow .nil)))))
      accepted := by
        have houtcomes : (Factory.function "run").draft.outcomes runCalls =
            [none, none, none, none, none, none] := rfl
        rw [houtcomes]
        decide
      name := ⟨by decide, by decide⟩
      doc := hdoc
      attributes := by intro a ha; cases ha
      signature := hsignature
      localTypes := by intro t ht; cases ht }
  have hstop : (Factory.abstractFunction "stop").MadeTidily [] :=
    { nest := .nil
      accepted := by intro o ho; cases ho
      name := ⟨by decide, by decide⟩
      doc := Code.tidy_empty
      attributes := by intro a ha; cases ha
      signature := hsignature
      localTypes := by intro t ht; cases ht }
  obtain ⟨hfunctions, htypes, hbuilt⟩ := text_indented_by_braces
  have hengine : engine.Tidy := by
    refine .mk ⟨by decide, by decide⟩ Code.tidy_empty (by intro a ha; cases ha)
      (by intro t ht; cases ht) ?_
    intro f hf
    have hmembers : f = run ∨ f = stop := by simpa [engine] using hf
    rcases hmembers with rfl | rfl
    · exact hrun.tidy
    · exact hstop.tidy
  have hmake : (Factory.function "make").MadeTidily makeCalls :=
    { nest := .cons (.spares trivial) (.cons (.addStatement hreturn) .nil)
      accepted := by
        have houtcomes : (Factory.function "make").draft.outcomes makeCalls = [none, none] := rfl
        rw [houtcomes]
        decide
      name := ⟨by decide, by decide⟩
      doc := Code.tidy_empty
      attributes := by intro a ha; cases ha
      signature := hsignature
      localTypes := by
        intro t ht
        have hlocal : t = engine := List.mem_singleton.1 ht
        rw [hlocal]
        exact hengine }
  obtain ⟨f, hbuild, hf⟩ := hbuilt _ _ hmake
  obtain ⟨s, htext, hbraces, hindented⟩ := hfunctions f hf
  exact ⟨⟨hengine, hmake⟩, htypes engine hengine, f, s, hbuild, htext, hbraces, hindented⟩

end SwiftDecl
