import SwiftDecl.Proofs.Code.Emission
import SwiftDecl.Proofs.Declaration.Parts

/-!
# Declarations that restore the writer

A block is balanced if its shifts come back to where they start and never lead below it. The
indentations that functions and types put around the blocks in them are taken back, so a declaration
whose blocks are balanced, at any depth, is written to its end from every level that is not below
zero, and leaves the level as it was and documentation ended (`balanced_restores`).

Below zero no way back is possible, so there a declaration can be written exactly if it does not
indent at all.
-/

namespace SwiftDecl

open Layout

/-! ## Layouts that restore the writer -/

/-- The shifts come back to where they start, and never lead below it. -/
structure Directive.Balanced (shifts : List Directive) : Prop where
  above : Directive.StayAbove 0 shifts
  even : Directive.net shifts = 0

/-- The writer is within documentation after the step, if it is so before. -/
def Step.inDocAfter (inDoc : Bool) : Step → Bool
  | .beginDoc => true
  | .endDoc => false
  | _ => inDoc

/-- The layout can be written from level zero on, comes back to it, and ends its documentation. -/
structure Layout.Restores (layout : Layout) : Prop where
  fits : Layout.Fits 0 layout
  rise : Layout.rise layout = 0
  inDoc : layout.foldl Step.inDocAfter false = false

namespace Layout

variable {a b layout : Layout}

/-- A layout that fits a level has no faults. -/
theorem sound_of_fits {level : Int} (h : Layout.Fits level layout) : Sound layout := by
  induction layout generalizing level with
  | nil => simp [Sound]
  | cons s rest ih =>
    obtain ⟨hs, hrest⟩ := h
    intro fault hin
    rcases List.mem_cons.1 hin with rfl | hin
    · exact hs
    · exact ih hrest fault hin

/-- Where there is no way back and no fault, a layout fits every level. -/
theorem fits_of_no_unindent {level : Int} (hsound : Sound layout) (h : .unindent ∉ layout) :
    Layout.Fits level layout := by
  induction layout generalizing level with
  | nil => trivial
  | cons s rest ih =>
    rw [List.mem_cons, not_or] at h
    refine ⟨?_, ih hsound.tail h.2⟩
    cases s with
    | unindent => exact absurd rfl h.1
    | fail fault => exact absurd List.mem_cons_self (hsound fault)
    | _ => trivial

/-- A layout that goes back somewhere does not end below zero. -/
theorem nonneg_of_unindent {level : Int} (hfits : Layout.Fits level layout)
    (h : .unindent ∈ layout) : 0 ≤ level + Layout.rise layout := by
  induction layout generalizing level with
  | nil => cases h
  | cons s rest ih =>
    obtain ⟨hs, hrest⟩ := hfits
    rw [Layout.rise, ← Int.add_assoc]
    by_cases hmore : .unindent ∈ rest
    · exact ih hrest hmore
    · -- The step is the last way back, so what follows can only lead up.
      obtain rfl : .unindent = s := (List.mem_cons.1 h).resolve_right hmore
      have hdown : 0 ≤ level - 1 := hs
      rw [unindent_mem_iff] at hmore
      rw [rise_eq_net, Directive.net]
      simp only [Step.rise]
      omega

/-- The shifts of a layout that restores the writer are as many ways back as indentations. -/
theorem Restores.unindent_mem_iff (h : Restores layout) :
    .unindent ∈ layout ↔ .indent ∈ layout := by
  have hrise := h.rise
  rw [rise_eq_net, Directive.net] at hrise
  rw [Layout.unindent_mem_iff, indent_mem_iff]
  omega

/-- The property to restore the writer goes from the parts of a declaration to the whole. -/
theorem composes_restores : Composes Restores where
  nil := ⟨trivial, rfl, rfl⟩
  text s := ⟨⟨trivial, trivial⟩, rfl, rfl⟩
  append := by
    intro a b ha hb
    refine ⟨fits_append.2 ⟨ha.fits, ?_⟩, ?_, ?_⟩
    · rw [ha.rise]
      exact hb.fits
    · rw [rise_append, ha.rise, hb.rise, Int.add_zero]
    · rw [List.foldl_append, ha.inDoc, hb.inDoc]
  braces := by
    intro inner h
    -- What fits level zero fits level one, from which the way back is possible.
    have hinner : Layout.Fits 1 (inner ++ [.unindent, .text "\x7d\n"]) := by
      refine fits_append.2 ⟨fits_above h.fits (by decide), ?_⟩
      have hback : (0 : Int) ≤ 1 + 0 - 1 := by decide
      rw [h.rise]
      exact ⟨hback, trivial, trivial⟩
    refine ⟨⟨trivial, trivial, hinner⟩, ?_, ?_⟩
    · rw [rise_append, rise_append, h.rise]
      rfl
    · rw [List.foldl_append, List.foldl_append]
      show List.foldl Step.inDocAfter (inner.foldl Step.inDocAfter false) _ = false
      rw [h.inDoc]
      rfl

end Layout

/-! ## Balanced declarations -/

/-- A basic block whose shifts are balanced. A block in a slot of it counts with its shifts, and
need not be balanced by itself. -/
structure Code.IsBalanced (c : Code) : Prop where
  basic : c.IsBasic
  shifts : Directive.Balanced c.shifts

mutual

/-- A function whose documentation, defaults, body and local types are balanced. -/
inductive FunctionDecl.IsBalanced : FunctionDecl → Prop where
  | mk {f : FunctionDecl} (doc : f.doc.IsBalanced)
      (defaults : ∀ p ∈ f.signature.parameters, ∀ c, p.default = some c → c.IsBalanced)
      (localTypes : ∀ t ∈ f.localTypes, TypeDecl.IsBalanced t)
      (body : ∀ b, f.body = some b → b.IsBalanced) : FunctionDecl.IsBalanced f

/-- A type whose documentation and member functions are balanced. -/
inductive TypeDecl.IsBalanced : TypeDecl → Prop where
  | mk {t : TypeDecl} (doc : t.doc.IsBalanced)
      (functions : ∀ f ∈ t.functions, FunctionDecl.IsBalanced f) : TypeDecl.IsBalanced t

end

/-- Texts and shifts neither begin nor end documentation. -/
theorem Layout.Follows.inDoc {layout : Layout} {shifts : List Directive}
    (h : layout.Follows shifts) (inDoc : Bool) : layout.foldl Step.inDocAfter inDoc = inDoc := by
  have hplain := h.plain
  clear h
  induction layout with
  | nil => rfl
  | cons s rest ih =>
    have hs : Step.inDocAfter inDoc s = inDoc := by
      have hstep := hplain s List.mem_cons_self
      cases s with
      | beginDoc => exact hstep.elim
      | endDoc => exact hstep.elim
      | _ => rfl
    rw [List.foldl_cons, hs]
    exact ih fun step hstep => hplain step (List.mem_cons_of_mem s hstep)

theorem Directive.balanced_nil : Directive.Balanced [] :=
  ⟨Directive.stayAbove_nil.2 (Int.le_refl 0), rfl⟩

/-- The empty block, which declarations have by default, is balanced. -/
theorem Code.isBalanced_empty : ({} : Code).IsBalanced := by
  have hnone : ({} : Code).shifts = [] := by simp [Code.shifts, Part.shifts]
  refine ⟨.mk .empty (by simp), ?_⟩
  rw [hnone]
  exact Directive.balanced_nil

namespace Code.IsBalanced

variable {c : Code}

/-- A balanced block restores the writer. -/
theorem restores (h : c.IsBalanced) : Restores c.layout := by
  have hfollows := Code.IsBasic.follows c h.basic
  refine ⟨?_, ?_, hfollows.inDoc false⟩
  · rw [fits_iff_shifts hfollows.sound (Int.le_refl 0), hfollows.shifts_eq]
    exact h.shifts.above
  · rw [rise_eq_net, hfollows.shifts_eq, h.shifts.even]

/-- As documentation a balanced block restores the writer. -/
theorem restores_doc (h : c.IsBalanced) : Restores (docLayout c c.layout) := by
  have hcode := h.restores
  unfold docLayout
  split
  · exact composes_restores.nil
  · have hfits : Layout.Fits 0 (c.layout ++ [.endDoc]) :=
      fits_append.2 ⟨hcode.fits, trivial, trivial⟩
    refine ⟨⟨trivial, hfits⟩, ?_, ?_⟩
    · rw [rise_append]
      simp [Layout.rise, Step.rise, hcode.rise]
    · rw [List.foldl_append]
      rfl

end Code.IsBalanced

mutual

/-- A balanced function restores the writer. -/
theorem FunctionDecl.IsBalanced.restores : ∀ f : FunctionDecl, f.IsBalanced →
    ∀ (implied : ModifierSet) (concise : Bool), Restores (f.layout implied concise)
  | ⟨name, doc, attributes, tags, modifiers, signature, localTypes, body⟩, h, implied, concise => by
    obtain ⟨hdoc, hdefaults, htypes, hbody⟩ := h
    have hlocal := TypeDecl.IsBalanced.restores_all localTypes htypes
    have hheader := composes_restores.functionHeader
      (fun p hp c hc => (hdefaults p hp c hc).restores) implied
    have hstatements := composes_restores.statements hlocal fun b hb => (hbody b hb).restores
    exact composes_restores.function (composes_restores.append hdoc.restores_doc hheader)
      hstatements concise

theorem TypeDecl.IsBalanced.restores_all : ∀ ts : List TypeDecl, (∀ t ∈ ts, t.IsBalanced) →
    ∀ t ∈ ts, Restores (t.layout {})
  | [], _ => by simp
  | t :: ts, h => by
    have hfirst := TypeDecl.IsBalanced.restores t (h t List.mem_cons_self) {}
    have hrest := TypeDecl.IsBalanced.restores_all ts fun u hu => h u (List.mem_cons_of_mem t hu)
    exact List.forall_mem_cons.2 ⟨hfirst, hrest⟩

/-- A balanced type restores the writer. -/
theorem TypeDecl.IsBalanced.restores : ∀ t : TypeDecl, t.IsBalanced →
    ∀ implied : ModifierSet, Restores (t.layout implied)
  | ⟨kind, name, doc, attributes, tags, modifiers, superTypes, functions⟩, h, implied => by
    obtain ⟨hdoc, hfunctions⟩ := h
    have hmembers := FunctionDecl.IsBalanced.restores_all functions hfunctions
    exact composes_restores.type
      (composes_restores.append hdoc.restores_doc
        (composes_restores.onlyTexts (TypeDecl.onlyTexts_header _ implied))) hmembers

theorem FunctionDecl.IsBalanced.restores_all : ∀ fs : List FunctionDecl,
    (∀ f ∈ fs, f.IsBalanced) → ∀ f ∈ fs, Restores (f.layout .internal false)
  | [], _ => by simp
  | f :: fs, h => by
    have hfirst := FunctionDecl.IsBalanced.restores f (h f List.mem_cons_self) .internal false
    have hrest :=
      FunctionDecl.IsBalanced.restores_all fs fun g hg => h g (List.mem_cons_of_mem f hg)
    exact List.forall_mem_cons.2 ⟨hfirst, hrest⟩

end

/-! ## Writing balanced declarations -/

namespace Writer

variable {w w' : Writer} {layout : Layout}

@[simp] theorem put_inDoc (w : Writer) (c : Char) : (w.put c).inDoc = w.inDoc := by
  unfold put
  split <;> rfl

@[simp] theorem emit_inDoc (w : Writer) (s : String) : (w.emit s).inDoc = w.inDoc := by
  unfold emit
  refine List.foldlRecOn (motive := fun v => v.inDoc = w.inDoc) s.toList put rfl fun v hv c _ => ?_
  rw [put_inDoc, hv]

/-- Documentation is begun and ended by the steps that say so. -/
theorem write_inDoc (h : w.write layout = (w', none)) :
    w'.inDoc = layout.foldl Step.inDocAfter w.inDoc := by
  induction layout generalizing w with
  | nil =>
    cases h
    rfl
  | cons s rest ih =>
    rw [write] at h
    cases hs : w.step s with
    | error fault =>
      -- A step that fails ends the writing, which has not failed here.
      rw [hs] at h
      cases h
    | ok next =>
      rw [hs] at h
      have hnext : next.inDoc = Step.inDocAfter w.inDoc s := by
        cases s with
        | text s =>
          -- Text never begins or ends documentation.
          cases hs
          exact emit_inDoc w s
        | unindent =>
          -- The level goes back, or the step fails below zero.
          simp only [step, unindent] at hs
          split at hs
          · cases hs
          · cases hs
            rfl
        | fail fault => cases hs
        | _ =>
          -- the steps for documentation themselves
          cases hs
          rfl
      rw [ih h, List.foldl_cons, hnext]

/-- After a closing brace a line starts. -/
theorem atLineStart_of_brace (h : w.write (layout ++ [.text "\x7d\n"]) = (w', none)) :
    w'.atLineStart = true := by
  obtain ⟨m, -, hbrace⟩ := write_append_eq_none_iff.1 h
  cases hbrace
  simp [emit, put]

end Writer

/-- Outside of documentation, the layout is written to its end from every level that is not below
zero, and from one below zero exactly if it does not indent. Where it is written to its end, the
writer is left at its level, outside of documentation and, if so it is said, at the start of a line.
A writer that watches the bounds does the same, if the indentation of each level on the way can be
made. -/
structure Layout.RestoresFrom (layout : Layout) (w : Writer) (ended : Prop) : Prop where
  written_iff : (w.write layout).2 = none ↔ 0 ≤ w.level ∨ .indent ∉ layout
  level : (w.write layout).2 = none → (w.write layout).1.level = w.level
  inDoc : (w.write layout).2 = none → (w.write layout).1.inDoc = false
  atLineStart : (w.write layout).2 = none → ended → (w.write layout).1.atLineStart = true
  bounded : 0 ≤ w.level → w.CanIndent layout.shifts →
    w.writeBounded layout = ((w.write layout).1, none)

/-- A layout that restores the writer does so from every level that is not below zero. -/
theorem Layout.Restores.from_writer {layout : Layout} (h : Layout.Restores layout) {w : Writer}
    (hdoc : w.inDoc = false) {ended : Prop}
    (hend : ended → ∃ front, layout = front ++ [.text "\x7d\n"]) : layout.RestoresFrom w ended := by
  have hsound := sound_of_fits h.fits
  have hwritten (hnone : (w.write layout).2 = none) : w.write layout = ((w.write layout).1, none) :=
    by rw [← hnone]
  have hiff : (w.write layout).2 = none ↔ 0 ≤ w.level ∨ .indent ∉ layout := by
    rw [Writer.write_snd_eq_none_iff]
    constructor
    · intro hfits
      -- A layout that goes in goes out as well, so it does not end below zero.
      by_cases hin : .indent ∈ layout
      · left
        have hnonneg := nonneg_of_unindent hfits (h.unindent_mem_iff.2 hin)
        rwa [h.rise, Int.add_zero] at hnonneg
      · exact .inr hin
    · -- Conversely: from level zero on everything fits, and a layout that never goes in never
      -- goes out.
      rintro (hlevel | hnone)
      · exact fits_above h.fits hlevel
      · exact fits_of_no_unindent hsound fun hin => hnone (h.unindent_mem_iff.1 hin)
  refine ⟨hiff, ?_, ?_, ?_, ?_⟩
  · intro hnone
    rw [Writer.write_level (hwritten hnone), h.rise, Int.add_zero]
  · intro hnone
    rw [Writer.write_inDoc (hwritten hnone), hdoc, h.inDoc]
  · -- The last step is a closing brace with its line end.
    intro hnone hended
    obtain ⟨front, hfront⟩ := hend hended
    have hwhole := hwritten hnone
    rw [hfront] at hwhole ⊢
    exact Writer.atLineStart_of_brace hwhole
  · -- Within the bounds, writing with bounds is writing without.
    intro hlevel hbounds
    rw [Writer.writeBounded_eq_write hlevel hbounds, hiff.2 (.inl hlevel)]
    rfl

/-- Balanced functions and types, with any modifiers implied and concisely or not, restore every
writer outside of documentation that is not below level zero. A type and a function with a body
leave it at the start of a line, unless the function is written as its bare statements. -/
theorem balanced_restores :
    (∀ f : FunctionDecl, f.IsBalanced → ∀ (implied : ModifierSet) (concise : Bool) (w : Writer),
      w.inDoc = false →
        (f.layout implied concise).RestoresFrom w (f.isAbstract = false ∧ ¬ f.IsShort concise)) ∧
    ∀ t : TypeDecl, t.IsBalanced → ∀ (implied : ModifierSet) (w : Writer),
      w.inDoc = false → (t.layout implied).RestoresFrom w True := by
  constructor
  · intro f hf implied concise w hdoc
    refine (FunctionDecl.IsBalanced.restores f hf implied concise).from_writer hdoc ?_
    rintro ⟨hbody, hfull⟩
    refine ⟨docLayout f.doc f.doc.layout ++ f.headerLayout implied ++
      ([.text " \x7b\n", .indent] ++ f.statements ++ [.unindent]), ?_⟩
    rw [FunctionDecl.layout_of_full hfull, hbody]
    simp
  · intro t ht implied w hdoc
    refine (TypeDecl.IsBalanced.restores t ht implied).from_writer hdoc fun _ => ?_
    refine ⟨docLayout t.doc t.doc.layout ++ t.headerLayout implied ++
      ([.text " \x7b\n", .indent] ++ FunctionDecl.layoutMembers t.functions ++ [.unindent]), ?_⟩
    rw [TypeDecl.layout_eq]
    simp

/-- A documented function in a type, with a default value and a local type with a member of its own.
In the middle of level two all of it is written, and level two is left at the start of a line. -/
theorem balanced_restores_member :
    let one : Code := { parts := [.text "1"] }
    let body : Code := {
      parts := [.text "if x\n", .directive .indent, .slot .literal, .directive .unindent]
      arguments := [.text "stop()\n"] }
    let inner : TypeDecl := {
      kind := .structType, name := "S", doc := {}
      functions := [{ name := "g", doc := one, signature := {}, body := some body }] }
    let f : FunctionDecl := {
      name := "f", doc := body, localTypes := [inner], body := some body
      signature := { parameters := [
        { name := "x", type := .declared { names := ["Int"] }, default := some one }] } }
    let t : TypeDecl := { kind := .classType, name := "C", doc := one, functions := [f] }
    let w : Writer := { level := 2, atLineStart := false, output := "    x " }
    (f.IsBalanced ∧ t.IsBalanced ∧ w.inDoc = false) ∧
      (f.isAbstract = false ∧ ¬ f.IsShort true) ∧
      (w.write (f.layout {} true)).2 = none ∧
      (w.write (f.layout {} true)).1.level = 2 ∧
      (w.write (f.layout {} true)).1.atLineStart = true ∧
      (w.write (t.layout {})).2 = none ∧
      (w.write (t.layout {})).1.level = 2 ∧
      (w.write (t.layout {})).1.atLineStart = true := by
  intro one body inner f t w
  have hadd : ({} : Code).add "1" [] = .ok one := rfl
  have hadd' : ({} : Code).add "if x\n%>%L%<" [.text "stop()\n"] = .ok body := rfl
  have hshifts : body.shifts = [.indent, .unindent] := by
    simp [body, Code.shifts, Argument.shiftsAll, Argument.shifts, Part.shifts, Directive.shifts]
  have hone : one.IsBalanced := by
    have hnone : one.shifts = [] := by simp [one, Code.shifts, Part.shifts]
    refine ⟨.mk (.add .empty hadd) (by simp [one]), ?_⟩
    rw [hnone]
    exact Directive.balanced_nil
  have hbody : body.IsBalanced := by
    refine ⟨.mk (.add .empty hadd') (by simpa [body] using Argument.IsBasic.text "stop()\n"), ?_⟩
    rw [hshifts]
    refine ⟨?_, rfl⟩
    simp only [Directive.stayAbove_cons, Directive.stayAbove_nil]
    decide
  have hinner : inner.IsBalanced := by
    refine .mk Code.isBalanced_empty ?_
    simpa [inner] using FunctionDecl.IsBalanced.mk
      (f := { name := "g", doc := one, signature := {}, body := some body }) hone (by simp)
      (by simp) (by simpa using hbody)
  have hf : f.IsBalanced := by
    refine .mk hbody ?_ (by simpa [f] using hinner) (by simpa [f] using hbody)
    simpa [f] using hone
  have ht : t.IsBalanced := .mk hone (by simpa [t] using hf)
  have hfull : f.isAbstract = false ∧ ¬ f.IsShort true := ⟨rfl, fun h => absurd h.1 (by decide)⟩
  have hfunction := balanced_restores.1 f hf {} true w rfl
  have htype := balanced_restores.2 t ht {} w rfl
  have hwritten := hfunction.written_iff.2 (.inl (by decide))
  have hwritten' := htype.written_iff.2 (.inl (by decide))
  exact ⟨⟨hf, ht, rfl⟩, hfull, hwritten, hfunction.level hwritten,
    hfunction.atLineStart hwritten hfull, hwritten', htype.level hwritten',
    htype.atLineStart hwritten' trivial⟩

/-- Below level zero the indentation of a body cannot be taken back: not every writer outside of
documentation can be used for every balanced function. -/
theorem balanced_refused_below_zero :
    ¬ ∀ f : FunctionDecl, f.IsBalanced → ∀ (implied : ModifierSet) (concise : Bool) (w : Writer),
      w.inDoc = false → (w.write (f.layout implied concise)).2 = none := by
  intro h
  let f : FunctionDecl := { name := "f", doc := {}, signature := {}, body := some {} }
  have hf : f.IsBalanced :=
    .mk Code.isBalanced_empty (by simp [f]) (by simp [f]) (by simpa [f] using Code.isBalanced_empty)
  have hfault : (({ level := -1 } : Writer).write (f.layout {} false)).2 = some (.unindent 1 0) :=
    rfl
  have hnone := h f hf {} false { level := -1 } rfl
  rw [hfault] at hnone
  cases hnone

end SwiftDecl
