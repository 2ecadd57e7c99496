import SwiftDecl.Proofs.Layout.Lines

/-!
# Levels along a layout

The level of a writer changes by the shifts of a layout only, its indentations and the ways back.
A layout without faults of its own is written to its end exactly if no front part of its shifts
leads below level zero (`Layout.fits_iff_shifts`). Where one does, the fault is that of the way back
from level zero (`Writer.fault_eq_unindent`). A writer that watches the bounds does the same as long
as the indentation of every level on the way can be made (`Writer.writeBounded_eq_write`).
-/

namespace SwiftDecl

/-! ## Shifts -/

/-- The shift of the level that a step makes, if it makes one. -/
def Step.shift? : Step → Option Directive
  | .indent => some .indent
  | .unindent => some .unindent
  | _ => none

namespace Directive

/-- By how much shifts raise the level: the indentations among them, less the ways back. -/
def net (shifts : List Directive) : Int :=
  (shifts.count .indent : Int) - (shifts.count .unindent : Int)

/-- From the level on, the shifts never lead below zero. -/
def StayAbove (level : Int) (shifts : List Directive) : Prop :=
  ∀ front, front <+: shifts → 0 ≤ level + net front

variable {level : Int} {shifts : List Directive}

@[simp] theorem net_nil : net [] = 0 := rfl

theorem net_append (a b : List Directive) : net (a ++ b) = net a + net b := by
  simp only [net, List.count_append]
  omega

/-- Shifts that stay above zero start there. -/
theorem StayAbove.level_nonneg (h : StayAbove level shifts) : 0 ≤ level := by
  simpa using h [] List.nil_prefix

theorem stayAbove_nil : StayAbove level [] ↔ 0 ≤ level := by
  simp [StayAbove]

/-- One shift before others. -/
theorem stayAbove_cons {d : Directive} :
    StayAbove level (d :: shifts) ↔ 0 ≤ level ∧ StayAbove (level + net [d]) shifts := by
  have hnet : ∀ front : List Directive, level + net (d :: front) = level + net [d] + net front := by
    intro front
    rw [Int.add_assoc, ← net_append, List.singleton_append]
  constructor
  · intro h
    refine ⟨h.level_nonneg, fun front hfront => ?_⟩
    rw [← hnet]
    exact h (d :: front) (List.cons_prefix_cons.2 ⟨rfl, hfront⟩)
  · rintro ⟨hlevel, h⟩ front hfront
    rcases List.prefix_cons_iff.1 hfront with rfl | ⟨rest, rfl, hrest⟩
    · simpa using hlevel
    · rw [hnet]
      exact h rest hrest

end Directive

namespace Layout

open Directive (net StayAbove)

/-- The shifts of a layout, in order. -/
def shifts (layout : Layout) : List Directive :=
  layout.filterMap Step.shift?

/-- No step of the layout is a fault. -/
def Sound (layout : Layout) : Prop :=
  ∀ fault, Step.fail fault ∉ layout

variable {a b layout : Layout} {level : Int}

@[simp] theorem shifts_nil : shifts [] = [] := rfl

theorem shifts_cons (s : Step) (layout : Layout) :
    shifts (s :: layout) = s.shift?.toList ++ shifts layout := by
  cases s <;> rfl

@[simp] theorem shifts_append : shifts (a ++ b) = shifts a ++ shifts b :=
  List.filterMap_append

/-- A step that alone makes a shift is in a layout exactly if the shift is among the shifts. -/
theorem mem_iff_count_shifts {s : Step} {d : Directive}
    (hs : ∀ t : Step, t.shift? = some d ↔ t = s) : s ∈ layout ↔ 0 < (shifts layout).count d := by
  rw [List.count_pos_iff, shifts, List.mem_filterMap]
  constructor
  · intro hin
    exact ⟨s, hin, (hs s).2 rfl⟩
  · rintro ⟨t, hin, ht⟩
    rwa [← (hs t).1 ht]

theorem indent_mem_iff : .indent ∈ layout ↔ 0 < (shifts layout).count .indent :=
  mem_iff_count_shifts fun t => by cases t <;> simp [Step.shift?]

theorem unindent_mem_iff : .unindent ∈ layout ↔ 0 < (shifts layout).count .unindent :=
  mem_iff_count_shifts fun t => by cases t <;> simp [Step.shift?]

/-- A step raises the level by its shift. -/
theorem net_shift? (s : Step) : net s.shift?.toList = s.rise := by
  cases s <;> rfl

/-- A layout raises the level by its shifts. -/
theorem rise_eq_net (layout : Layout) : Layout.rise layout = net (shifts layout) := by
  induction layout with
  | nil => rfl
  | cons s rest ih => rw [Layout.rise, ih, shifts_cons, Directive.net_append, net_shift?]

/-- Two layouts in turn raise the level by both. -/
theorem rise_append (a b : Layout) : Layout.rise (a ++ b) = Layout.rise a + Layout.rise b := by
  rw [rise_eq_net, rise_eq_net, rise_eq_net, shifts_append, Directive.net_append]

theorem Sound.tail {s : Step} (h : Sound (s :: layout)) : Sound layout :=
  fun fault hin => h fault (List.mem_cons_of_mem s hin)

/-- A layout without faults fits a level exactly if its shifts stay above zero from there. -/
theorem fits_iff_shifts (hsound : Sound layout) (hlevel : 0 ≤ level) :
    Layout.Fits level layout ↔ StayAbove level (shifts layout) := by
  induction layout generalizing level with
  | nil => simp [Layout.Fits, Directive.stayAbove_nil, hlevel]
  | cons s rest ih =>
    have hrest := hsound.tail
    cases s with
    | fail fault => exact absurd List.mem_cons_self (hsound fault)
    | indent =>
      -- Going in never leads below zero.
      have hup : 0 ≤ level + 1 := by omega
      show True ∧ Layout.Fits (level + 1) rest ↔ StayAbove level (.indent :: shifts rest)
      rw [Directive.stayAbove_cons, ih hrest hup]
      exact and_congr_left fun _ => ⟨fun _ => hlevel, fun _ => trivial⟩
    | unindent =>
      show 0 ≤ level - 1 ∧ Layout.Fits (level - 1) rest ↔ StayAbove level (.unindent :: shifts rest)
      rw [Directive.stayAbove_cons]
      constructor
      · rintro ⟨hdown, hfits⟩
        exact ⟨hlevel, (ih hrest hdown).1 hfits⟩
      · -- No later level is below zero, and the first of them is this level less one.
        rintro ⟨-, hstay⟩
        have hdown : 0 ≤ level - 1 := hstay.level_nonneg
        exact ⟨hdown, (ih hrest hdown).2 hstay⟩
    | _ =>
      show True ∧ Layout.Fits (level + 0) rest ↔ StayAbove level (shifts rest)
      rw [Int.add_zero, ih hrest hlevel, true_and]

end Layout

/-! ## Writing and the level -/

namespace Writer

open Directive (net)

variable {w w' next : Writer} {s : Step} {layout : Layout}

/-- A step that is taken from a level that is not below zero does not lead below it. -/
theorem level_nonneg_of_step (hlevel : 0 ≤ w.level) (hs : w.step s = .ok next) :
    0 ≤ next.level := by
  rw [step_level hs]
  have hfits : s.Fits w.level := step_eq_ok_iff.1 ⟨next, hs⟩
  cases s with
  | unindent =>
    have hdown : 0 ≤ w.level - 1 := hfits
    exact hdown
  | indent =>
    simp only [Step.rise]
    omega
  | _ => simpa [Step.rise] using hlevel

/-- No step changes the unit. -/
theorem step_unit (hs : w.step s = .ok next) : next.unit = w.unit := by
  cases s with
  | text s =>
    cases hs
    exact emit_unit w s
  | unindent =>
    simp only [step, unindent] at hs
    split at hs
    · cases hs
    · cases hs
      rfl
  | endDoc =>
    cases hs
    -- The end of documentation can write a line end first.
    unfold endDoc
    split <;> simp
  | fail fault => cases hs
  | _ =>
    cases hs
    rfl

/-- A layout is written to its end exactly if it fits the level. -/
theorem write_snd_eq_none_iff : (w.write layout).2 = none ↔ Layout.Fits w.level layout := by
  rw [← write_eq_none_iff]
  constructor
  · intro h
    exact ⟨(w.write layout).1, by rw [← h]⟩
  · rintro ⟨w', h⟩
    rw [h]

/-- A layout that is written to its end raises the level of the writer as it says. -/
theorem write_level (h : w.write layout = (w', none)) :
    w'.level = w.level + Layout.rise layout := by
  induction layout generalizing w with
  | nil =>
    cases h
    exact (Int.add_zero _).symm
  | cons s rest ih =>
    rw [write] at h
    cases hs : w.step s with
    | ok next =>
      rw [hs] at h
      rw [ih h, step_level hs, Layout.rise, Int.add_assoc]
    | error fault =>
      rw [hs] at h
      cases h

/-- The fault of a layout without faults of its own is that of a way back from level zero. -/
theorem fault_eq_unindent (hsound : layout.Sound) (hlevel : 0 ≤ w.level) {fault : LayoutFault}
    (h : (w.write layout).2 = some fault) : fault = .unindent 1 0 := by
  induction layout generalizing w with
  | nil => cases h
  | cons s rest ih =>
    rw [write] at h
    cases hs : w.step s with
    | ok next =>
      rw [hs] at h
      exact ih hsound.tail (level_nonneg_of_step hlevel hs) h
    | error e =>
      rw [hs] at h
      cases h
      cases s with
      | unindent =>
        simp only [step, unindent] at hs
        split at hs
        · next hlow =>
          -- From level zero on, going back fails at zero only.
          have hzero : w.level = 0 := by omega
          cases hs
          rw [hzero]
        · cases hs
      | fail e => exact absurd List.mem_cons_self (hsound e)
      | _ => cases hs

/-- The indentation of each level on the way of the shifts can be made. -/
def CanIndent (w : Writer) (shifts : List Directive) : Prop :=
  ∀ front, front <+: shifts → 0 ≤ w.level + net front →
    Text.copiesFault? (w.level + net front) w.unit = none

/-- What lies ahead of a step lies ahead after it. -/
theorem CanIndent.after_step (h : w.CanIndent (Layout.shifts (s :: layout)))
    (hs : w.step s = .ok next) : next.CanIndent layout.shifts := by
  intro front hfront hlevel
  have hnet : next.level + net front = w.level + net (s.shift?.toList ++ front) := by
    rw [Directive.net_append, Layout.net_shift?, step_level hs, Int.add_assoc]
  rw [hnet] at hlevel ⊢
  rw [step_unit hs]
  refine h _ ?_ hlevel
  rw [Layout.shifts_cons]
  exact (List.prefix_append_right_inj _).2 hfront

/-- A writer that watches the bounds writes as one that does not, if the indentation of each level
on the way can be made. -/
theorem writeBounded_eq_write (hlevel : 0 ≤ w.level) (hbounds : w.CanIndent layout.shifts) :
    w.writeBounded layout = ((w.write layout).1, (w.write layout).2.map .layout) := by
  induction layout generalizing w with
  | nil => rfl
  | cons s rest ih =>
    -- The indentation of the level at hand has to fit, since text can be written here.
    have hhere : Text.copiesFault? w.level w.unit = none := by
      simpa using hbounds [] List.nil_prefix (by simpa using hlevel)
    cases hs : w.step s with
    | ok next =>
      -- Only text looks at the bounds.
      have hbounded : w.stepBounded s = (next, none) := by
        cases s with
        | text s =>
          cases hs
          rw [stepBounded, emitBounded_eq_foldl hhere]
          rfl
        | _ => simp only [stepBounded, hs]
      rw [writeBounded, write, hbounded, hs]
      exact ih (level_nonneg_of_step hlevel hs) (hbounds.after_step hs)
    | error fault =>
      -- Text never fails without bounds.
      have hbounded : w.stepBounded s = (w, some (.layout fault)) := by
        cases s with
        | text s => cases hs
        | _ => simp only [stepBounded, hs]
      rw [writeBounded, write, hbounded, hs]
      rfl

/-- Characters that are written within bounds are written as they are without. -/
theorem foldl_put_of_emitBounded {cs : List Char} (h : w.emitBounded cs = (w', none)) :
    cs.foldl put w = w' := by
  induction cs generalizing w with
  | nil =>
    cases h
    rfl
  | cons c cs ih =>
    rw [emitBounded] at h
    split at h
    · cases h
    · exact ih h

/-- What is written to its end within bounds is written as it is without. -/
theorem write_of_writeBounded (h : w.writeBounded layout = (w', none)) :
    w.write layout = (w', none) := by
  induction layout generalizing w with
  | nil =>
    cases h
    rfl
  | cons s rest ih =>
    rw [writeBounded] at h
    split at h
    · next next hstep =>
      have hs : w.step s = .ok next := by
        cases s with
        | text s =>
          -- Text went through, so each of its characters did.
          have hemit : w.emitBounded s.toList = (next, none) := by
            rw [stepBounded] at hstep
            generalize w.emitBounded s.toList = r at hstep
            obtain ⟨last, fault⟩ := r
            cases fault <;> cases hstep
            rfl
          rw [← foldl_put_of_emitBounded hemit]
          rfl
        | _ =>
          rw [stepBounded] at hstep
          · split at hstep <;> cases hstep
            assumption
          · simp
      rw [write, hs]
      exact ih h
    · cases h

end Writer

end SwiftDecl
