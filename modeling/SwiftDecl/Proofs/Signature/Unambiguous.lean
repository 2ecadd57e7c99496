import SwiftDecl.Proofs.Declaration.Header
import SwiftDecl.Proofs.Modifier
import SwiftDecl.Proofs.TypeName.Delimited

/-!
# The text of a signature shows the signature

Two signatures whose names are identifiers are written alike only if they show the same
(`Signature.face_eq_of_text_eq`): the same effects, generic parameters, parameters and return type.
The text of a type is in one piece (`TypeName.IsNamed.whole`), so what stands between the separators
of a signature is found again, whatever separators there are inside of types.
-/

namespace SwiftDecl

open Text
open SwiftDecl.TypeName (IsName)

variable {x y r s : List Char}

/-! ## Names of declarations -/

/-- A written name is in one piece, between backticks or not. -/
theorem TypeName.IsName.whole_escapeReserved {name : String} (h : IsName name) :
    Whole (escapeReserved name).toList := by
  unfold escapeReserved
  split
  · have hquote : Whole "`".toList := whole_of_plain rfl
    rw [String.toList_append, String.toList_append]
    exact (hquote.append h.whole).append hquote
  · exact h.whole

/-- A name holds no backtick, so it is read off what is written for it. -/
theorem TypeName.IsName.escapeReserved_inj {a b : String} (ha : IsName a) (hb : IsName b)
    (h : escapeReserved a = escapeReserved b) : a = b := by
  have hquoted : ∀ {c d : String}, IsName d → d ≠ "`" ++ c ++ "`" := by
    rintro c d hd rfl
    exact absurd (hd.word '`' (by simp)) (by decide)
  unfold escapeReserved at h
  split at h
  · split at h
    · rw [← String.toList_inj] at h ⊢
      simpa using h
    · exact absurd h.symm (hquoted hb)
  · split at h
    · exact absurd h (hquoted ha)
    · exact h

/-! ## Generic parameters -/

/-- All names of the generic parameter are identifiers. -/
structure TypeVariable.IsNamed (v : TypeVariable) : Prop where
  name : IsName v.name
  bounds : ∀ t ∈ v.bounds, t.IsNamed

/-- What the text of a generic parameter shows: its name and the texts of its bounds. -/
def TypeVariable.face (v : TypeVariable) : String × List String :=
  (v.name, v.bounds.map TypeName.text)

/-- The characters of a generic parameter. -/
theorem TypeVariable.toList_text (v : TypeVariable) :
    v.text.toList = v.name.toList ++
      if v.bounds = [] then []
      else ':' :: ' ' :: " & ".toList.intercalate (v.bounds.map fun t => t.text.toList) := by
  unfold TypeVariable.text
  rcases v with ⟨name, bounds⟩
  cases bounds with
  | nil => simp
  | cons t ts => simp [String.toList_intercalate, Function.comp_def]

/-- What the text of a generic parameter shows is found again before a comma and at the end. -/
theorem TypeVariable.shows_text :
    Shows (fun v : TypeVariable => v.text.toList) face IsNamed [',', '>'] := by
  have hstops : [',', '>'] ⊆ stops := by decide
  have hcolon : ∀ cs, StartsIn stops (':' :: cs) := startsIn_cons (by decide)
  rintro ⟨name, bounds⟩ ⟨name', bounds'⟩ ⟨hname, hbounds⟩ ⟨hname', hbounds'⟩ r s hr hs h
  simp only [toList_text, List.append_assoc] at h hname hname' hbounds hbounds'
  have hsame {r s : List Char} (hr : StartsIn stops r) (hs : StartsIn stops s)
      (h : name.toList ++ r = name'.toList ++ s) : name = name' ∧ r = s := by
    rcases hname.whole.append_inj hname'.whole hr hs h with ⟨heq, hrest⟩
    exact ⟨String.toList_inj.1 heq, hrest⟩
  -- After the name comes a colon if there are bounds, and the rest of the text if there are none.
  by_cases hb : bounds = []
  · subst hb
    by_cases hb' : bounds' = []
    · subst hb'
      rcases hsame (hr.mono hstops) (hs.mono hstops) h with ⟨rfl, hrest⟩
      exact ⟨rfl, hrest⟩
    · -- Only the second would have a colon after its name, where the first has ended.
      rw [if_neg hb'] at h
      exact absurd (hsame (hr.mono hstops) (hcolon _) h).2 (hr.ne_cons (by decide) _)
  · rw [if_neg hb] at h
    by_cases hb' : bounds' = []
    · subst hb'
      -- the same with the two exchanged
      exact absurd (hsame (hcolon _) (hs.mono hstops) h).2.symm (hs.ne_cons (by decide) _)
    · rw [if_neg hb'] at h
      rcases hsame (hcolon _) (hcolon _) h with ⟨rfl, htail⟩
      -- Both have bounds, and these are told apart as types.
      have hends : [',', '>'] ⊆ [' ', ',', '>'] := by decide
      have hfound := intercalate_inj (TypeName.shows_text (by decide)) (by decide) hbounds hbounds'
        hb hb' (hr.mono hends) (hr.ne_cons (by decide)) (hs.mono hends) (hs.ne_cons (by decide))
        (List.cons.inj (List.cons.inj htail).2).2
      exact ⟨by rw [face, face, hfound.1], hfound.2⟩

/-- The characters of generic parameters. -/
theorem toList_typeVariablesText (vs : List TypeVariable) :
    (typeVariablesText vs).toList =
      if vs = [] then []
      else '<' :: ([',', ' '].intercalate (vs.map fun v => v.text.toList) ++ ['>']) := by
  unfold typeVariablesText
  cases vs with
  | nil => rfl
  | cons v vs => simp [String.toList_intercalate, Function.comp_def]

/-- Generic parameters are told from the parameters after them. -/
theorem typeVariablesText_append_inj {vs ws : List TypeVariable} (hvs : ∀ v ∈ vs, v.IsNamed)
    (hws : ∀ w ∈ ws, w.IsNamed) (hr : StartsIn ['('] r) (hs : StartsIn ['('] s)
    (h : (typeVariablesText vs).toList ++ r = (typeVariablesText ws).toList ++ s) :
    vs.map TypeVariable.face = ws.map TypeVariable.face ∧ r = s := by
  rw [toList_typeVariablesText, toList_typeVariablesText] at h
  by_cases hv : vs = []
  · rw [if_pos hv] at h
    by_cases hw : ws = []
    · rw [if_pos hw] at h
      rw [hv, hw]
      exact ⟨rfl, h⟩
    · rw [if_neg hw] at h
      -- Only the second would start with an angle bracket.
      exact absurd h (hr.ne_cons (by decide) _)
  · rw [if_neg hv] at h
    by_cases hw : ws = []
    · rw [if_pos hw] at h
      -- Only the first would start with an angle bracket.
      exact absurd h.symm (hs.ne_cons (by decide) _)
    · rw [if_neg hw] at h
      simp only [List.cons_append, List.append_assoc, List.nil_append] at h
      -- Both lists are told apart element by element, up to the closing bracket.
      have hends : ∀ cs, StartsIn [',', '>'] ('>' :: cs) := startsIn_cons (by decide)
      have hfound := intercalate_inj TypeVariable.shows_text (by decide) hvs hws hv hw (hends _)
        (by simp) (hends _) (by simp) (List.cons.inj h).2
      exact ⟨hfound.1, (List.cons.inj hfound.2).2⟩

/-! ## Modifiers -/

/-- Modifiers as they are written before a type. -/
def Modifier.spelledAll (ms : List Modifier) : List Char :=
  ms.flatMap fun m => m.keyword.toList ++ [' ']

theorem Modifier.whole_keyword (m : Modifier) : Whole m.keyword.toList :=
  whole_of_plain (by cases m <;> rfl)

/-- Modifiers are told from the piece after them by the spaces. -/
theorem Modifier.spelledAll_append_inj {ms ns : List Modifier} {ends : List Char}
    (hends : ends ⊆ stops) (hspace : ' ' ∉ ends) (hx : Whole x) (hy : Whole y)
    (hr : StartsIn ends r) (hs : StartsIn ends s)
    (h : spelledAll ms ++ (x ++ r) = spelledAll ns ++ (y ++ s)) : ms = ns ∧ x = y ∧ r = s := by
  have hr' := hr.mono hends
  have hs' := hs.mono hends
  have hblank : ∀ cs, StartsIn stops (' ' :: cs) := startsIn_cons (by decide)
  have hcons : ∀ (m : Modifier) (ms : List Modifier) (cs : List Char),
      spelledAll (m :: ms) ++ cs = m.keyword.toList ++ ' ' :: (spelledAll ms ++ cs) := by
    intro m ms cs
    simp [spelledAll]
  induction ms generalizing ns with
  | nil =>
    cases ns with
    | nil => exact ⟨rfl, hx.append_inj hy hr' hs' h⟩
    | cons n ns =>
      rw [hcons] at h
      -- After a keyword comes a space, which the rest after the piece does not start with.
      exact absurd (hx.append_inj n.whole_keyword hr' (hblank _) h).2 (hr.ne_cons hspace _)
  | cons m ms ih =>
    rw [hcons] at h
    cases ns with
    | nil =>
      -- the same with the two exchanged
      have hrest := (m.whole_keyword.append_inj hy (hblank _) hs' h).2
      exact absurd hrest.symm (hs.ne_cons hspace _)
    | cons n ns =>
      rw [hcons] at h
      -- Both start with a keyword: these agree, and so do the modifiers after them.
      rcases m.whole_keyword.append_inj n.whole_keyword (hblank _) (hblank _) h with
        ⟨hkeyword, hrest⟩
      rcases ih (List.cons.inj hrest).2 with ⟨rfl, hafter⟩
      rw [Modifier.keyword_inj.1 (String.toList_inj.1 hkeyword)]
      exact ⟨rfl, hafter⟩

/-! ## Parameters -/

namespace Parameter

/-- All names of the parameter are identifiers, and it has no default value. -/
structure IsNamed (p : Parameter) : Prop where
  name : IsName p.name
  label : ∀ l ∈ p.label, IsName l
  type : p.type.IsNamed
  default : p.default = none

/-- What the text of a parameter shows. -/
structure Face where
  name : String
  /-- The label, unless it is the name. -/
  label : Option String
  modifiers : ModifierSet
  type : String
  variadic : Bool

/-- What the text of the parameter shows. -/
def face (p : Parameter) : Face where
  name := p.name
  label := p.label.filter fun l => l ≠ p.name
  modifiers := p.modifiers
  type := p.type.text
  variadic := p.variadic

/-- A label before the name. -/
def labelChars : Option String → List Char
  | some l => l.toList ++ [' ']
  | none => []

/-- The type, with the mark for several values. -/
def typeChars (type : String) (variadic : Bool) : List Char :=
  type.toList ++ if variadic then "...".toList else []

theorem toList_modifiersText (modifiers : ModifierSet) :
    (modifiersText modifiers {}).toList = Modifier.spelledAll modifiers.toList := by
  have hall : (modifiers.toList.filter fun m => m ∉ ({} : ModifierSet)) = modifiers.toList := by
    rw [List.filter_eq_self]
    intro m _
    simp
  rw [modifiersText, hall, String.toList_join, List.flatMap_map]
  unfold Modifier.spelledAll
  apply List.flatMap_congr
  intro m _
  exact String.toList_append

theorem toList_labelText (p : Parameter) : p.labelText.toList = labelChars p.face.label := by
  unfold labelText face
  cases p.label with
  | none => rfl
  | some l =>
    by_cases hl : l = p.name
    · simp [hl, labelChars, Option.filter]
    · simp [hl, labelChars, Option.filter]

/-- The characters of a parameter without a default value. -/
theorem toList_spelled {p : Parameter} (h : p.default = none) :
    (p.spelled true).toList = labelChars p.face.label ++ ((escapeReserved p.name).toList ++
      ':' :: ' ' :: (Modifier.spelledAll p.modifiers.toList ++
        typeChars p.type.text p.variadic)) := by
  have hdots : (if p.variadic then "..." else "").toList =
      if p.variadic then "...".toList else [] := by
    split
    · rfl
    · rfl
  unfold spelled typeChars
  rw [h, if_pos rfl]
  simp [Code.defaultText, toList_labelText, toList_modifiersText, hdots]

/-- A label is told from the name, which stands before a colon. -/
theorem labelChars_append_inj {a b : Option String} (ha : ∀ l ∈ a, IsName l)
    (hb : ∀ l ∈ b, IsName l) (hx : Whole x) (hy : Whole y)
    (h : labelChars a ++ (x ++ ':' :: r) = labelChars b ++ (y ++ ':' :: s)) :
    a = b ∧ x = y ∧ r = s := by
  have hblank : ∀ cs, StartsIn stops (' ' :: cs) := startsIn_cons (by decide)
  have hcolon : ∀ cs, StartsIn stops (':' :: cs) := startsIn_cons (by decide)
  have hnamed {x y : List Char} (hx : Whole x) (hy : Whole y) (h : x ++ ':' :: r = y ++ ':' :: s) :
      x = y ∧ r = s := by
    rcases hx.append_inj hy (hcolon _) (hcolon _) h with ⟨heq, hrest⟩
    exact ⟨heq, (List.cons.inj hrest).2⟩
  cases a with
  | none =>
    cases b with
    | none => exact ⟨rfl, hnamed hx hy h⟩
    | some l =>
      simp only [labelChars, List.nil_append, List.append_assoc] at h
      -- A label is followed by a space, where the name is followed by its colon.
      have hrest := (hx.append_inj (hb l rfl).whole (hcolon _) (hblank _) h).2
      cases hrest
  | some l =>
    cases b with
    | none =>
      simp only [labelChars, List.nil_append, List.append_assoc] at h
      -- the same with the two exchanged
      have hrest := ((ha l rfl).whole.append_inj hy (hblank _) (hcolon _) h).2
      cases hrest
    | some l' =>
      simp only [labelChars, List.append_assoc] at h
      rcases (ha l rfl).whole.append_inj (hb l' rfl).whole (hblank _) (hblank _) h with
        ⟨hlabel, hrest⟩
      rw [String.toList_inj.1 hlabel]
      exact ⟨rfl, hnamed hx hy (List.cons.inj hrest).2⟩

/-- The mark for several values is told from the type, which does not end with a dot. -/
theorem typeChars_inj {t u : TypeName} (ht : t.IsNamed) (hu : u.IsNamed) {a b : Bool}
    (h : typeChars t.text a = typeChars u.text b) : t.text = u.text ∧ a = b := by
  have hdots : ∀ {t u : TypeName}, u.IsNamed → u.text.toList ≠ t.text.toList ++ "...".toList := by
    intro t u hu h
    rcases hu.endsUndotted with ⟨front, c, heq, hc⟩
    have hlast : front ++ [c] = (t.text.toList ++ "..".toList) ++ ['.'] := by
      rw [← heq, h]
      simp
    exact hc (List.cons.inj (List.append_inj' hlast rfl).2).1
  unfold typeChars at h
  cases a <;> cases b
  · exact ⟨String.toList_inj.1 (by simpa using h), rfl⟩
  · exact absurd (by simpa using h) (hdots (t := u) ht)
  · exact absurd (by simpa using h.symm) (hdots (t := t) hu)
  · exact ⟨String.toList_inj.1 (List.append_cancel_right h), rfl⟩

theorem IsNamed.whole_typeChars {p : Parameter} (h : p.IsNamed) :
    Whole (typeChars p.type.text p.variadic) := by
  unfold typeChars
  split
  · exact h.type.whole.append (whole_of_plain rfl)
  · exact h.type.whole.append whole_nil

theorem IsNamed.label_face {p : Parameter} (h : p.IsNamed) : ∀ l ∈ p.face.label, IsName l := by
  intro l hl
  exact h.label l (Option.mem_filter_iff.1 hl).1

/-- What the text of a parameter shows is found again before a comma and at the end. -/
theorem shows_spelled :
    Shows (fun p : Parameter => (p.spelled true).toList) face IsNamed [',', ')'] := by
  intro p q hp hq r s hr hs h
  simp only [toList_spelled hp.default, toList_spelled hq.default, List.append_assoc,
    List.cons_append] at h
  -- From left to right: the label and the name, the modifiers, the type.
  rcases labelChars_append_inj hp.label_face hq.label_face hp.name.whole_escapeReserved
    hq.name.whole_escapeReserved h with ⟨hlabel, hname, hafter⟩
  rcases Modifier.spelledAll_append_inj (by decide) (by decide) hp.whole_typeChars
    hq.whole_typeChars hr hs (List.cons.inj hafter).2 with ⟨hmodifiers, htype, hrest⟩
  rcases typeChars_inj hp.type hq.type htype with ⟨htext, hvariadic⟩
  have hname' := hp.name.escapeReserved_inj hq.name (String.toList_inj.1 hname)
  -- Sets with the same list of modifiers are equal.
  have hset : p.modifiers = q.modifiers := by
    apply ModifierSet.ext
    intro m
    show m ∈ p.modifiers.toList ↔ m ∈ q.modifiers.toList
    rw [hmodifiers]
  refine ⟨?_, hrest⟩
  show Face.mk p.name p.face.label p.modifiers p.type.text p.variadic =
    Face.mk q.name q.face.label q.modifiers q.type.text q.variadic
  rw [hname', hlabel, hset, htext, hvariadic]

/-- The text of a parameter does not start with the closing parenthesis. -/
theorem IsNamed.not_closed {p : Parameter} (h : p.IsNamed) :
    (p.spelled true).toList ++ r ≠ ')' :: s := by
  have hname : (escapeReserved p.name).toList ≠ [] := by
    unfold escapeReserved
    split
    · simp
    · exact h.name.nonempty
  rw [toList_spelled h.default]
  have hlabel := h.label_face
  cases hface : p.face.label with
  | none =>
    simp only [labelChars, List.nil_append, List.append_assoc]
    exact h.name.whole_escapeReserved.ne_stop hname rfl
  | some l =>
    simp only [labelChars, List.append_assoc]
    exact (hlabel l hface).whole.ne_stop (hlabel l hface).nonempty rfl

/-- The characters of parameters in parentheses. -/
theorem toList_spelledAll (ps : List Parameter) :
    (spelledAll ps true).toList =
      '(' :: ([',', ' '].intercalate (ps.map fun p => (p.spelled true).toList) ++ [')']) := by
  simp [spelledAll, String.toList_intercalate, Function.comp_def]

/-- The text of parameters that there are does not start with the closing parenthesis. -/
theorem not_closed_intercalate {p : Parameter} {ps : List Parameter} (h : p.IsNamed) :
    [',', ' '].intercalate ((p :: ps).map fun p => (p.spelled true).toList) ++ r ≠ ')' :: s := by
  cases ps with
  | nil => simpa using h.not_closed
  | cons q qs =>
    rw [List.map_cons, List.map_cons, List.intercalate_cons_cons, List.append_assoc,
      List.append_assoc]
    exact h.not_closed

/-- Parameters are found again up to the closing parenthesis. -/
theorem spelledAll_append_inj {ps qs : List Parameter} (hps : ∀ p ∈ ps, p.IsNamed)
    (hqs : ∀ q ∈ qs, q.IsNamed) (h : (spelledAll ps true).toList ++ r =
      (spelledAll qs true).toList ++ s) :
    ps.map face = qs.map face ∧ r = s := by
  rw [toList_spelledAll, toList_spelledAll] at h
  simp only [List.append_assoc, List.cons_append, List.nil_append] at h
  have hlist := (List.cons.inj h).2
  cases ps with
  | nil =>
    cases qs with
    | nil => exact ⟨rfl, (List.cons.inj hlist).2⟩
    | cons q qs => exact absurd hlist.symm (not_closed_intercalate (hqs q List.mem_cons_self))
  | cons p ps =>
    cases qs with
    | nil => exact absurd hlist (not_closed_intercalate (hps p List.mem_cons_self))
    | cons q qs =>
      have hends : ∀ cs, StartsIn [',', ')'] (')' :: cs) := startsIn_cons (by decide)
      have hfound := intercalate_inj shows_spelled (by decide) hps hqs (by simp) (by simp)
        (hends _) (by simp) (hends _) (by simp) hlist
      exact ⟨hfound.1, (List.cons.inj hfound.2).2⟩

end Parameter

/-! ## Signatures -/

namespace Signature

/-- All names of the signature are identifiers, and no parameter has a default value. -/
structure IsNamed (s : Signature) : Prop where
  typeVariables : ∀ v ∈ s.typeVariables, v.IsNamed
  parameters : ∀ p ∈ s.parameters, p.IsNamed
  returns : ∀ t ∈ s.returns, t.IsNamed

/-- What the text of a signature shows. -/
structure Face where
  isFailable : Bool
  isAsync : Bool
  isThrowing : Bool
  /-- The names of the generic parameters with the texts of their bounds. -/
  typeVariables : List (String × List String)
  parameters : List Parameter.Face
  /-- The text of the returned type, unless it stands for "no value". -/
  returns : Option String

/-- What the text of the signature shows. -/
def face (s : Signature) : Face where
  isFailable := s.isFailable
  isAsync := s.isAsync
  isThrowing := s.isThrowing
  typeVariables := s.typeVariables.map TypeVariable.face
  parameters := s.parameters.map Parameter.face
  returns := (s.returns.filter fun t => !t.isVoid).map TypeName.text

/-- A returned type after an arrow. -/
def returnsChars : Option String → List Char
  | some text => " -> ".toList ++ text.toList
  | none => []

/-- Effects as they are written after the parameters. -/
def effectsChars (isAsync isThrowing : Bool) : List Char :=
  (if isAsync then " async".toList else []) ++ if isThrowing then " throws".toList else []

theorem toList_returnsText (s : Signature) :
    (returnsText s.returns).toList = returnsChars s.face.returns := by
  unfold returnsText face
  cases s.returns with
  | none => rfl
  | some t => cases hvoid : t.isVoid <;> simp [hvoid, returnsChars, Option.filter]

theorem toList_effects (s : Signature) :
    s.effects.toList = effectsChars s.isAsync s.isThrowing := by
  unfold effects effectsChars
  cases s.isAsync <;> cases s.isThrowing <;> rfl

theorem returnsChars_inj {a b : Option String} (h : returnsChars a = returnsChars b) : a = b := by
  cases a with
  | none =>
    cases b with
    | none => rfl
    | some u => cases h
  | some t =>
    cases b with
    | none => cases h
    | some u => rw [String.toList_inj.1 (List.append_cancel_left h)]

/-- The effects and the returned type are found again at the end. -/
theorem effectsChars_append_inj {isAsync isAsync' isThrowing isThrowing' : Bool}
    {a b : Option String}
    (h : effectsChars isAsync isThrowing ++ returnsChars a =
      effectsChars isAsync' isThrowing' ++ returnsChars b) :
    isAsync = isAsync' ∧ isThrowing = isThrowing' ∧ a = b := by
  -- What comes after a place for an effect has another first letter than the effect itself.
  have hthrows : ∀ a, ¬ " throws".toList <+: returnsChars a := by
    rintro a ⟨after, h⟩
    cases a <;> simp [returnsChars] at h
  have hasync : ∀ (throwing : Bool) (a : Option String),
      ¬ " async".toList <+: (if throwing then " throws".toList else []) ++ returnsChars a := by
    rintro throwing a ⟨after, h⟩
    cases throwing <;> cases a <;> simp [returnsChars] at h
  unfold effectsChars at h
  rw [List.append_assoc, List.append_assoc] at h
  rcases optional_inj (hasync _ _) (hasync _ _) h with ⟨hasync', hrest⟩
  rcases optional_inj (hthrows _) (hthrows _) hrest with ⟨hthrows', hreturns⟩
  exact ⟨hasync', hthrows', returnsChars_inj hreturns⟩

/-- A signature without default values is written as its text. -/
theorem IsNamed.text_eq {s : Signature} (h : s.IsNamed) (name : String) :
    Layout.text (s.layout (some name) true true) = .ok (s.spelled name true true) := by
  have htexts : ∀ p ∈ s.parameters, p.HasTextDefault := by
    intro p hp value hvalue
    rw [(h.parameters p hp).default] at hvalue
    cases hvalue
  have hspells := Signature.spells htexts name true true
  rw [hspells.onlyTexts.text_eq, hspells.chars, String.ofList_toList]

/-- The characters of a signature: its name, the mark of a failable one, the generic parameters, the
parameters, the effects and the returned type. -/
theorem toList_spelled (s : Signature) (name : String) :
    (s.spelled name true true).toList = name.toList ++ ((if s.isFailable then ['?'] else []) ++
      ((typeVariablesText s.typeVariables).toList ++
        ((Parameter.spelledAll s.parameters true).toList ++
          (effectsChars s.isAsync s.isThrowing ++ returnsChars s.face.returns)))) := by
  have hmark : (if s.isFailable then "?" else "").toList = if s.isFailable then ['?'] else [] := by
    split
    · rfl
    · rfl
  simp [spelled, hmark, toList_effects, toList_returnsText]

/-- The generic parameters, or the parameters if there are none, do not start with the mark of a
failable signature. -/
theorem not_failable (vs : List TypeVariable) (ps : List Parameter) :
    ¬ ['?'] <+: (typeVariablesText vs).toList ++ ((Parameter.spelledAll ps true).toList ++ r) := by
  rintro ⟨after, h⟩
  rw [toList_typeVariablesText, Parameter.toList_spelledAll] at h
  split at h
  · exact absurd (List.cons.inj h).1 (by decide)
  · exact absurd (List.cons.inj h).1 (by decide)

/-- Signatures that are written alike after the same name show the same, if all names in them are
identifiers and they have no default values. -/
theorem face_eq_of_text_eq {s t : Signature} {name : String} (hs : s.IsNamed) (ht : t.IsNamed)
    (h : Layout.text (s.layout (some name) true true) =
      Layout.text (t.layout (some name) true true)) :
    s.face = t.face := by
  rw [hs.text_eq, ht.text_eq] at h
  have hchars := congrArg String.toList (Except.ok.inj h)
  rw [toList_spelled, toList_spelled] at hchars
  have hstart : ∀ ps r, StartsIn ['('] ((Parameter.spelledAll ps true).toList ++ r) := by
    intro ps r
    rw [Parameter.toList_spelledAll]
    exact startsIn_cons (by decide) _
  -- From left to right: the question mark, the generic parameters, the parameters, the effects
  -- and the result.
  rcases optional_inj (not_failable _ _) (not_failable _ _) (List.append_cancel_left hchars) with
    ⟨hfailable, hgeneric⟩
  rcases typeVariablesText_append_inj hs.typeVariables ht.typeVariables (hstart _ _) (hstart _ _)
    hgeneric with ⟨htypeVariables, hlisted⟩
  rcases Parameter.spelledAll_append_inj hs.parameters ht.parameters hlisted with
    ⟨hparameters, hafter⟩
  rcases effectsChars_append_inj hafter with ⟨hasync, hthrowing, hreturns⟩
  show Face.mk s.isFailable s.isAsync s.isThrowing (s.typeVariables.map TypeVariable.face)
      (s.parameters.map Parameter.face) s.face.returns =
    Face.mk t.isFailable t.isAsync t.isThrowing (t.typeVariables.map TypeVariable.face)
      (t.parameters.map Parameter.face) t.face.returns
  rw [hfailable, hasync, hthrowing, htypeVariables, hparameters, hreturns]

/-- Two signatures with one text: the label of the first is the name, which is reserved, its types
have modules and generic parameters that the second only names, and it returns no value. -/
theorem face_eq_of_text_eq_of_generic :
    let rest : Parameter := {
      name := "rest", label := some "_", variadic := true, type := .optional (.array (.named "T")) }
    let s : Signature := {
      typeVariables := [{ name := "T", bounds := [.named "Hashable", .named "Sendable"] }]
      parameters := [{
        name := "in", label := some "in", modifiers := .ofList [.inoutParameter]
        type := .dictionary .string (.typeVariable "T" []) }, rest]
      returns := some .void, isAsync := true, isFailable := true }
    let t : Signature := {
      typeVariables := [{ name := "T", bounds := [.named "Hashable", .named "Sendable"] }]
      parameters := [{
        name := "in", modifiers := .ofList [.inoutParameter]
        type := .dictionary (.named "String") (.named "T") }, rest]
      isAsync := true, isFailable := true }
    (s.IsNamed ∧ t.IsNamed ∧ s ≠ t) ∧
      Layout.text (s.layout (some "init") true true) = .ok
        "init?<T: Hashable & Sendable>(`in`: inout [String: T], _ rest: [T]?...) async" ∧
      s.face = t.face := by
  intro rest s t
  have hname {word : String} (hword : word.toList ≠ [] ∧
      word.toList.all Text.isWordChar = true ∧ word.toList.head?.any Text.isDigit = false) :
      IsName word :=
    ⟨hword.1, List.all_eq_true.1 hword.2.1, TypeName.isIdentifier_iff.2 hword.2.2⟩
  have hnamed {word module : String} (hword : IsName word) :
      TypeName.IsNamed (.declared { module := module, names := [word] }) := by
    rw [TypeName.IsNamed]
    exact ⟨by simp, fun w hw => by rwa [List.mem_singleton.1 hw]⟩
  have hT : IsName "T" := hname (by decide)
  have hString : IsName "String" := hname (by decide)
  have hvariable : TypeVariable.IsNamed
      { name := "T", bounds := [.named "Hashable", .named "Sendable"] } := by
    refine ⟨hT, List.forall_mem_cons.2 ⟨hnamed (hname (by decide)), ?_⟩⟩
    exact List.forall_mem_singleton.2 (hnamed (hname (by decide)))
  have hrest : rest.IsNamed := by
    refine ⟨hname (by decide), ?_, ?_, rfl⟩
    · rintro l ⟨⟩
      exact hname (by decide)
    · simpa [rest, TypeName.IsNamed, TypeName.named] using hnamed hT
  have hs : s.IsNamed := by
    refine ⟨List.forall_mem_singleton.2 hvariable, List.forall_mem_cons.2
      ⟨⟨hname (by decide), ?_, ?_, rfl⟩, List.forall_mem_singleton.2 hrest⟩, ?_⟩
    · rintro l ⟨⟩
      exact hname (by decide)
    · rw [TypeName.IsNamed, TypeName.IsNamed]
      exact ⟨hnamed hString, hT⟩
    · rintro u ⟨⟩
      exact hnamed (hname (by decide))
  have ht : t.IsNamed := by
    refine ⟨List.forall_mem_singleton.2 hvariable, List.forall_mem_cons.2
      ⟨⟨hname (by decide), ?_, ?_, rfl⟩, List.forall_mem_singleton.2 hrest⟩, ?_⟩
    · rintro l ⟨⟩
    · rw [TypeName.IsNamed]
      exact ⟨hnamed hString, hnamed hT⟩
    · rintro u ⟨⟩
  have hne : s ≠ t := by
    intro h
    cases congrArg Signature.returns h
  -- The two texts are evaluated.
  have hstext : Layout.text (s.layout (some "init") true true) = .ok
      "init?<T: Hashable & Sendable>(`in`: inout [String: T], _ rest: [T]?...) async" := by
    decide +kernel
  have httext : Layout.text (t.layout (some "init") true true) = .ok
      "init?<T: Hashable & Sendable>(`in`: inout [String: T], _ rest: [T]?...) async" := by
    decide +kernel
  exact ⟨⟨hs, ht, hne⟩, hstext, face_eq_of_text_eq hs ht (hstext.trans httext.symm)⟩

end Signature

end SwiftDecl
