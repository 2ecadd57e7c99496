import SwiftDecl.Proofs.Code.Filling
import SwiftDecl.Proofs.Layout.Levels

/-!
# Writing built blocks

A block that is built of texts, numbers, truth values, nothing, type names and such blocks is
written as texts and shifts of the level, no more (`Code.IsBasic.follows`). Its shifts can be read
off its parts, each nested block in its place (`Code.shifts`), and they alone decide whether the
block is written to its end, and at which level that is (`Code.emission_by_shifts`).
-/

namespace SwiftDecl

open Layout

/-! ## Layouts of texts and shifts -/

/-- The step writes a text or shifts the level. -/
def Step.IsPlain : Step → Prop
  | .text _ => True
  | .indent => True
  | .unindent => True
  | _ => False

/-- The layout consists of texts and of the shifts, in order. -/
structure Layout.Follows (layout : Layout) (shifts : List Directive) : Prop where
  plain : ∀ step ∈ layout, step.IsPlain
  shifts_eq : layout.shifts = shifts

/-- The shift that a directive is, if it is one. -/
def Directive.shifts : Directive → List Directive
  | indent => [indent]
  | unindent => [unindent]
  | _ => []

namespace Layout

variable {a b layout : Layout} {shifts shifts' : List Directive}

theorem follows_nil : Follows [] [] :=
  ⟨by simp, rfl⟩

theorem follows_text (s : String) : Follows [.text s] [] :=
  ⟨by simp [Step.IsPlain], rfl⟩

theorem follows_directive (d : Directive) : Follows d.layout d.shifts := by
  cases d with
  | indent => exact ⟨by simp [Directive.layout, Step.IsPlain], rfl⟩
  | unindent => exact ⟨by simp [Directive.layout, Step.IsPlain], rfl⟩
  | _ => exact follows_text _

theorem Follows.append (ha : Follows a shifts) (hb : Follows b shifts') :
    Follows (a ++ b) (shifts ++ shifts') := by
  refine ⟨?_, by rw [shifts_append, ha.shifts_eq, hb.shifts_eq]⟩
  intro step hstep
  rcases List.mem_append.1 hstep with hin | hin
  · exact ha.plain step hin
  · exact hb.plain step hin

/-- Texts and shifts are no faults. -/
theorem Follows.sound (h : Follows layout shifts) : Sound layout :=
  fun fault hin => h.plain (.fail fault) hin

end Layout

/-! ## Shifts of blocks -/

/-- The shifts of parts in order. Each slot has those of the next argument. -/
def Part.shifts : List Part → (arguments : List (List Directive)) → List Directive
  | [], _ => []
  | .text _ :: parts, arguments => Part.shifts parts arguments
  | .directive d :: parts, arguments => d.shifts ++ Part.shifts parts arguments
  | .slot _ :: parts, [] => Part.shifts parts []
  | .slot _ :: parts, argument :: arguments => argument ++ Part.shifts parts arguments

mutual

/-- The shifts of an argument: those of a block. -/
def Argument.shifts : Argument → List Directive
  | .code c => c.shifts
  | _ => []

/-- The shifts of several arguments. -/
def Argument.shiftsAll : List Argument → List (List Directive)
  | [] => []
  | a :: as => a.shifts :: Argument.shiftsAll as

/-- The shifts of a block in order, with those of each nested block in its place. -/
def Code.shifts : Code → List Directive
  | ⟨parts, arguments⟩ => Part.shifts parts (Argument.shiftsAll arguments)

end

/-- What a slot that is not for literals keeps: a text or nothing for strings, a type or a text for
the other two. -/
theorem Slot.kept_of_convert {s : Slot} {a converted : Argument} (hs : s ≠ .literal)
    (h : s.convert a = .ok converted) :
    (s = .string ∧ (converted = .null ∨ ∃ text, converted = .text text)) ∨
      (s = .type ∧ ∃ t, converted = .type t) ∨ (s = .name ∧ ∃ name, converted = .text name) := by
  cases s with
  | literal => exact absurd rfl hs
  | string =>
    simp only [Slot.convert] at h
    split at h
    · next text _ =>
      cases h
      cases text with
      | none => exact .inl ⟨rfl, .inl rfl⟩
      | some s => exact .inl ⟨rfl, .inr ⟨s, rfl⟩⟩
    · cases h
  | type =>
    simp only [Slot.convert] at h
    split at h
    · cases h
      exact .inr (.inl ⟨rfl, _, rfl⟩)
    · cases h
  | name =>
    simp only [Slot.convert] at h
    split at h
    · cases h
      exact .inr (.inr ⟨rfl, _, rfl⟩)
    · cases h

/-- A slot that is not for literals writes what it keeps as one text. -/
theorem Slot.follows_of_convert {s : Slot} {a converted : Argument} (hs : s ≠ .literal)
    (h : s.convert a = .ok converted) : Follows (converted.placed s) converted.shifts := by
  rcases Slot.kept_of_convert hs h with
    ⟨rfl, rfl | ⟨text, rfl⟩⟩ | ⟨rfl, t, rfl⟩ | ⟨rfl, name, rfl⟩
  all_goals
    simp only [Argument.placed, Argument.shifts]
    exact follows_text _

/-- Slots are written by the shifts of what they hold, if it is as a literal. -/
theorem Code.Holds.follows {parts : List Part} {kept : List Argument} (h : Code.Holds parts kept)
    (hkept : ∀ a ∈ kept, Follows (a.placed .literal) a.shifts) :
    Follows (fill parts (Argument.placedAll kept))
      (Part.shifts parts (Argument.shiftsAll kept)) := by
  induction h with
  | nil => exact follows_nil
  | text s _ ih =>
    rw [fill, Part.shifts]
    exact (follows_text s).append (ih hkept)
  | directive d _ ih =>
    rw [fill, Part.shifts]
    exact (follows_directive d).append (ih hkept)
  | @slot parts kept s a converted hconverted _ ih =>
    have hrest := ih fun b hb => hkept b (List.mem_cons_of_mem converted hb)
    rw [Argument.placedAll, Argument.shiftsAll, fill, Part.shifts]
    by_cases hs : s = .literal
    · subst hs
      exact (hkept converted List.mem_cons_self).append hrest
    · exact (Slot.follows_of_convert hs hconverted).append hrest

/-! ## Basic blocks -/

mutual

/-- A text, a number, a truth value, nothing, a type name, or a basic block. -/
inductive Argument.IsBasic : Argument → Prop where
  | text (s : String) : Argument.IsBasic (.text s)
  | integer (i : Int) : Argument.IsBasic (.integer i)
  | float (x : Float) : Argument.IsBasic (.float x)
  | boolean (b : Bool) : Argument.IsBasic (.boolean b)
  | null : Argument.IsBasic .null
  | type (t : TypeName) : Argument.IsBasic (.type t)
  | code {c : Code} : Code.IsBasic c → Argument.IsBasic (.code c)

/-- A built block whose arguments are texts, numbers, truth values, nothing, type names and basic
blocks. -/
inductive Code.IsBasic : Code → Prop where
  | mk {c : Code} (built : c.Built) (arguments : ∀ a ∈ c.arguments, Argument.IsBasic a) :
      Code.IsBasic c

end

theorem Code.IsBasic.built {c : Code} (h : c.IsBasic) : c.Built := by
  cases h with
  | mk built _ => exact built

mutual

/-- As a literal, a basic argument is written by its shifts. -/
theorem Argument.IsBasic.follows : ∀ a : Argument, a.IsBasic →
    Follows (a.placed .literal) a.shifts
  | .code c, h => by
    cases h with
    | code hc =>
      rw [Argument.placed, Argument.shifts]
      exact Code.IsBasic.follows c hc
  | .text _, _ | .integer _, _ | .float _, _ | .boolean _, _ | .null, _ | .type _, _ => by
    simp only [Argument.placed, Argument.shifts]
    exact follows_text _
  | .parameter _, h | .attribute _, h | .function _, h | .typeDecl _, h | .modifier _, h => by
    cases h

theorem Argument.IsBasic.follows_all : ∀ as : List Argument, (∀ a ∈ as, a.IsBasic) →
    ∀ a ∈ as, Follows (a.placed .literal) a.shifts
  | [], _ => by simp
  | a :: as, h => by
    have hfirst := Argument.IsBasic.follows a (h a List.mem_cons_self)
    have hrest := Argument.IsBasic.follows_all as fun b hb => h b (List.mem_cons_of_mem a hb)
    exact List.forall_mem_cons.2 ⟨hfirst, hrest⟩

/-- A basic block is written as texts and shifts, which are those of its parts. -/
theorem Code.IsBasic.follows : ∀ c : Code, c.IsBasic → Follows c.layout c.shifts
  | ⟨parts, arguments⟩, h => by
    cases h with
    | mk built hbasic =>
      rw [Code.layout, Code.shifts]
      exact built.holds.follows (Argument.IsBasic.follows_all arguments hbasic)

end

/-- A basic block has an argument for each of its slots and none left over. From a level that is not
below zero, its writing fails exactly if some front part of its shifts goes back by more than the
level and its indentations. The fault is then the way back from level zero, and else the level is
left as the shifts say. A writer that watches the bounds does the same, if the indentation of each
level on the way can be made. -/
theorem Code.emission_by_shifts {c : Code} (hc : c.IsBasic) {w : Writer} (hlevel : 0 ≤ w.level) :
    c.parts.countP Part.isSlot = c.arguments.length ∧
    ((w.write c.layout).2 ≠ none ↔
      ∃ front, front <+: c.shifts ∧
        w.level + (front.count .indent : Int) < (front.count .unindent : Int)) ∧
    (∀ fault, (w.write c.layout).2 = some fault → fault = .unindent 1 0) ∧
    ((w.write c.layout).2 = none →
      (w.write c.layout).1.level =
        w.level + (c.shifts.count .indent : Int) - (c.shifts.count .unindent : Int)) ∧
    (w.CanIndent c.shifts →
      w.writeBounded c.layout = ((w.write c.layout).1, (w.write c.layout).2.map .layout)) := by
  have hfollows := Code.IsBasic.follows c hc
  have hsound := hfollows.sound
  have hshifts := hfollows.shifts_eq
  refine ⟨hc.built.aligned, ?_, ?_, ?_, ?_⟩
  · -- The writing fails if somewhere on the way the level is below zero.
    rw [Ne, Writer.write_snd_eq_none_iff, fits_iff_shifts hsound hlevel, hshifts]
    simp only [Directive.StayAbove, Classical.not_forall, exists_prop, Int.not_le]
    refine exists_congr fun front => and_congr_right fun _ => ?_
    rw [Directive.net]
    omega
  · -- There is no fault but that one, since what a basic block holds is sound.
    intro fault hfault
    exact Writer.fault_eq_unindent hsound hlevel hfault
  · intro hnone
    have hwritten : w.write c.layout = ((w.write c.layout).1, none) := by rw [← hnone]
    -- The level at the end is the sum of the shifts.
    rw [Writer.write_level hwritten, rise_eq_net, hshifts, Directive.net, Int.add_sub_assoc]
  · intro hbounds
    refine Writer.writeBounded_eq_write hlevel ?_
    rw [hshifts]
    exact hbounds

/-- A block that goes back in the middle of another and comes up again. It can be written from level
one, where it leaves level two, and not from level zero. -/
theorem Code.emission_of_dip :
    let dip : Code := { parts := [.directive .unindent, .text "b\n", .directive .indent] }
    let c : Code := {
      parts := [.text "a\n", .slot .literal, .slot .string, .directive .indent]
      arguments := [.code dip, .null] }
    let w : Writer := { level := 1 }
    (c.IsBasic ∧ 0 ≤ w.level ∧ 0 ≤ ({} : Writer).level) ∧
      (c.parts.countP Part.isSlot = 2 ∧ c.arguments.length = 2) ∧
      (w.write c.layout).2 = none ∧ (w.write c.layout).1.level = 2 ∧
      w.writeBounded c.layout = ((w.write c.layout).1, none) ∧
      (({} : Writer).write c.layout).2 = some (.unindent 1 0) := by
  intro dip c w
  have hadd : ({} : Code).add "%<b\n%>" [] = .ok dip := rfl
  have hadd' : ({} : Code).add "a\n%L%S%>" [.code dip, .null] = .ok c := rfl
  -- Both blocks are built by templates.
  have hdip : dip.IsBasic := .mk (.add .empty hadd) (by simp [dip])
  have hc : c.IsBasic := by
    refine .mk (.add .empty hadd') fun a ha => ?_
    have hcases : a = .code dip ∨ a = .null := by simpa [c] using ha
    rcases hcases with rfl | rfl
    · exact .code hdip
    · exact .null
  have hshifts : c.shifts = [.unindent, .indent, .indent] := by
    simp [c, dip, Code.shifts, Argument.shiftsAll, Argument.shifts, Part.shifts, Directive.shifts]
  obtain ⟨hslots, hfails, -, hleft, hbounded⟩ := Code.emission_by_shifts hc (w := w) (by decide)
  -- From level zero the first shift is already too deep.
  obtain ⟨-, hfails', hfault, -, -⟩ := Code.emission_by_shifts hc (w := {}) (by decide)
  have hnone : (w.write c.layout).2 = none := rfl
  have hfault' : ∃ fault, (({} : Writer).write c.layout).2 = some fault := by
    refine Option.ne_none_iff_exists'.1 (hfails'.2 ⟨[.unindent], ?_, by decide⟩)
    rw [hshifts]
    exact ⟨[.indent, .indent], rfl⟩
  obtain ⟨fault, hsome⟩ := hfault'
  refine ⟨⟨hc, by decide, by decide⟩, ⟨rfl, rfl⟩, hnone, ?_, ?_, ?_⟩
  · rw [hleft hnone, hshifts]
    rfl
  · rw [hbounded, hnone]
    · rfl
    · -- The bounds are checked on each of the four fronts of the shifts.
      intro front hfront _
      simp only [hshifts, List.prefix_cons_iff, List.prefix_nil] at hfront
      obtain rfl | ⟨_, rfl, rfl | ⟨_, rfl, rfl | ⟨_, rfl, rfl⟩⟩⟩ := hfront
      all_goals decide
  · rw [hsome, hfault fault hsome]

end SwiftDecl
