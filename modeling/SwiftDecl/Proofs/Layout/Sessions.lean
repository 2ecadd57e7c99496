import SwiftDecl.Proofs.Declaration.Members
import SwiftDecl.Writer.Call

/-!
# Sessions of a writer

A writer is used call by call, and a call can be cut off in the middle of a block, of documentation
or of a declaration. Some facts about its state hold at each moment all the same
(`Writer.Steady`), since each step keeps them, also a step that fails. Between calls the writer is
outside of documentation, too (`Writer.Settled`): a call that comes to its end has ended what it has
begun, and a call that is cut off gives up what it has begun (`Writer.session_settled`).
-/

namespace SwiftDecl

open Layout

namespace Writer

variable {w next : Writer}

/-! ## At each moment -/

/-- The level is not below zero, a line starts exactly where nothing has been written or a line end
was written last, and the writer is within documentation only if some has been begun. -/
structure Steady (w : Writer) : Prop where
  level : 0 ≤ w.level
  atLineStart_iff : w.atLineStart = true ↔ w.output = "" ∨ ∃ before, w.output = before ++ "\n"
  openDocs : w.inDoc = true → 0 < w.openDocs

/-- Between calls the writer is outside of documentation. -/
structure Settled (w : Writer) : Prop extends Steady w where
  inDoc : w.inDoc = false

/-- A text that ends with a character ends with a line end only if the character is one. -/
theorem ended_push_iff {s : String} {c : Char} :
    (s.push c = "" ∨ ∃ before, s.push c = before ++ "\n") ↔ c = '\n' := by
  constructor
  · rintro (hempty | ⟨before, hbefore⟩)
    · simp at hempty
    · rw [← String.toList_inj, String.toList_push, String.toList_append] at hbefore
      have hlast := congrArg List.getLast? hbefore
      simpa using hlast
  · rintro rfl
    exact .inr ⟨s, by simp [← String.toList_inj]⟩

/-- A character settles whether a line starts after it, and changes nothing else. -/
theorem Steady.put (h : w.Steady) (c : Char) : (w.put c).Steady := by
  unfold Writer.put
  by_cases hc : c = '\n'
  · rw [if_pos hc]
    exact ⟨h.level, iff_of_true rfl (ended_push_iff.2 rfl), h.openDocs⟩
  · rw [if_neg hc]
    exact ⟨h.level, iff_of_false Bool.false_ne_true (hc ∘ ended_push_iff.1), h.openDocs⟩

theorem Steady.foldl_put (h : w.Steady) (cs : List Char) : (cs.foldl Writer.put w).Steady := by
  induction cs generalizing w with
  | nil => exact h
  | cons c cs ih => exact ih (h.put c)

theorem Steady.emit (h : w.Steady) (s : String) : (w.emit s).Steady :=
  h.foldl_put s.toList

/-- Characters keep the writer steady, up to the first that cannot be written. -/
theorem Steady.emitBounded (h : w.Steady) (cs : List Char) : (w.emitBounded cs).1.Steady := by
  induction cs generalizing w with
  | nil => exact h
  | cons c cs ih =>
    rw [Writer.emitBounded]
    split
    · exact h
    · exact ih (h.put c)

/-- A step that is taken keeps the writer steady. -/
theorem Steady.step {s : Step} (h : w.Steady) (hs : w.step s = .ok next) : next.Steady := by
  have hlevel := level_nonneg_of_step h.level hs
  cases s with
  | text s =>
    cases hs
    exact h.emit s
  | indent =>
    cases hs
    exact { h with level := hlevel }
  | unindent =>
    simp only [Writer.step, unindent] at hs
    split at hs
    · cases hs
    · cases hs
      exact { h with level := hlevel }
  | beginDoc =>
    cases hs
    -- A mark is on, and one more of its documentations is open.
    exact { h with openDocs := fun _ => Nat.succ_pos _ }
  | endDoc =>
    cases hs
    -- The line is ended first if it is not empty, and then the mark is off.
    have hended : (if w.atLineStart then w else w.emit "\n").Steady := by
      split
      · exact h
      · exact h.emit "\n"
    exact { hended with openDocs := by simp [Writer.endDoc] }
  | fail fault => cases hs

/-- A step that fails within bounds keeps the writer steady, too. -/
theorem Steady.stepBounded (h : w.Steady) (s : Step) : (w.stepBounded s).1.Steady := by
  cases s with
  | text s => exact h.emitBounded s.toList
  | _ =>
    rw [Writer.stepBounded]
    · split
      · next hs => exact h.step hs
      · exact h
    · simp

/-- A writer that gives up leaves the documentation that it has begun. -/
theorem Steady.abandon (h : w.Steady) : w.abandon.Settled := by
  unfold Writer.abandon
  split
  · next hnone =>
    have hdoc : w.inDoc = false := by
      cases hin : w.inDoc with
      | false => rfl
      | true =>
        have hsome := h.openDocs hin
        omega
    exact { h with inDoc := hdoc }
  · exact ⟨{ h with openDocs := by simp }, rfl⟩

/-- A layout keeps the writer steady, up to the first step that fails. After one that fails, the
writer is outside of documentation. -/
theorem Steady.writeBounded (h : w.Steady) (layout : Layout) :
    (w.writeBounded layout).1.Steady ∧
      ((w.writeBounded layout).2 ≠ none → (w.writeBounded layout).1.inDoc = false) := by
  induction layout generalizing w with
  | nil => exact ⟨h, fun hfailed => absurd rfl hfailed⟩
  | cons s rest ih =>
    have hstep := h.stepBounded s
    rw [Writer.writeBounded]
    split
    · next hs =>
      rw [hs] at hstep
      exact ih hstep
    · next hs =>
      rw [hs] at hstep
      exact ⟨hstep.abandon.toSteady, fun _ => hstep.abandon.inDoc⟩

/-! ## Between calls -/

theorem settled_new (unit : String) : ({ unit } : Writer).Settled :=
  ⟨⟨Int.le_refl 0, iff_of_true rfl (.inl rfl), by simp⟩, rfl⟩

end Writer

/-- A call leaves documentation as it finds it. -/
theorem WriterCall.leavesDoc (c : WriterCall) : LeavesDoc c.layout := by
  cases c with
  | emit s => exact composes_leavesDoc.text s
  | code c => exact leavesDoc_at_any_depth.code c
  | doc c => exact leavesDoc_doc c
  | attributes items oneLine =>
    have hspells : Spells (attributesLayout items oneLine) _ :=
      spells_flatMap fun a _ => (spells_text _).cons a.text
    exact composes_leavesDoc.onlyTexts hspells.onlyTexts
  | modifiers own implied =>
    exact composes_leavesDoc.onlyTexts (spells_modifiers own implied).onlyTexts
  | typeVariables vs => exact composes_leavesDoc.onlyTexts (spells_typeVariables vs).onlyTexts
  | type t => exact composes_leavesDoc.text t.text
  | function f implied concise => exact leavesDoc_at_any_depth.function f implied concise
  | typeDecl t implied => exact leavesDoc_at_any_depth.type t implied
  | indent levels => exact composes_leavesDoc.nil
  | unindent levels => exact composes_leavesDoc.nil

namespace Writer

variable {w : Writer}

/-- A layout that leaves documentation as it finds it leaves the writer settled, written to its end
or not. -/
theorem Settled.writeBounded (h : w.Settled) {layout : Layout} (hdoc : LeavesDoc layout) :
    (w.writeBounded layout).1.Settled := by
  obtain ⟨hsteady, hfailed⟩ := h.toSteady.writeBounded layout
  refine ⟨hsteady, ?_⟩
  by_cases hended : (w.writeBounded layout).2 = none
  · have hwrite : w.write layout = ((w.writeBounded layout).1, none) :=
      write_of_writeBounded (by rw [← hended])
    rw [write_inDoc hwrite, h.inDoc]
    exact hdoc
  · exact hfailed hended

/-- A level is lowered exactly if it is not lowered below zero. Otherwise nothing changes. -/
theorem call_unindent (w : Writer) (levels : Int) :
    w.call (.unindent levels) =
      if levels ≤ w.level then ({ w with level := w.level - levels }, none)
      else (w, some (.layout (.unindent levels w.level))) := by
  rw [call, unindent]
  by_cases hlow : w.level - levels < 0
  · rw [if_pos hlow, if_neg (by omega)]
  · rw [if_neg hlow, if_pos (by omega)]

/-- A call leaves the writer settled, unless it lowers the level by raising it. -/
theorem Settled.call (h : w.Settled) {c : WriterCall}
    (hc : ∀ levels, c = .indent levels → 0 ≤ levels) : (w.call c).1.Settled := by
  cases c with
  | indent levels =>
    have hlevels := hc levels rfl
    have hlevel := h.level
    exact { h with level := Int.add_nonneg hlevel hlevels }
  | unindent levels =>
    rw [call_unindent]
    split
    · next hlevels => exact { h with level := Int.sub_nonneg_of_le hlevels }
    · exact h
  | _ => exact h.writeBounded (WriterCall.leavesDoc _)

/-- So does a session, whatever calls of it fail. -/
theorem Settled.session (h : w.Settled) {calls : List WriterCall}
    (hcalls : ∀ levels, .indent levels ∈ calls → 0 ≤ levels) : (w.session calls).Settled := by
  induction calls generalizing w with
  | nil => exact h
  | cons c cs ih =>
    have hfirst : (w.call c).1.Settled := by
      apply h.call
      rintro levels rfl
      exact hcalls levels List.mem_cons_self
    exact ih hfirst fun levels hmem => hcalls levels (List.mem_cons_of_mem c hmem)

/-- A new writer with any unit is settled after every session in which no level is raised by less
than zero, whatever calls of it have failed. In the middle of a call it is steady. A level that
cannot be lowered leaves the writer as it was. -/
theorem session_settled (unit : String) (calls : List WriterCall)
    (h : ∀ levels, WriterCall.indent levels ∈ calls → 0 ≤ levels) :
    let w := ({ unit } : Writer).session calls
    w.Settled ∧
      (∀ (c : WriterCall) (front : Layout), front <+: c.layout → (w.writeBounded front).1.Steady) ∧
      ∀ levels, ((w.call (.unindent levels)).2 = none ↔ levels ≤ w.level) ∧
        ((w.call (.unindent levels)).2 ≠ none → (w.call (.unindent levels)).1 = w) := by
  intro w
  have hsettled : w.Settled := (settled_new unit).session h
  refine ⟨hsettled, ?_, ?_⟩
  · intro c front _
    exact (hsettled.toSteady.writeBounded front).1
  · intro levels
    rw [call_unindent]
    split <;> simp_all

/-- Documentation that is cut off after a documented function in it. The function has left the
documentation before, and the levels are used up, so that none is left to be lowered. -/
theorem session_settled_cut :
    let f : FunctionDecl := {
      name := "f", doc := { parts := [.text "F."] }, signature := {}, body := none }
    let c : Code := {
      parts := [.text "See ", .slot .literal, .directive .unindent, .directive .unindent]
      arguments := [.function f] }
    let calls : List WriterCall := [.indent 1, .doc c, .unindent 1]
    let w := ({} : Writer).session calls
    (∀ levels, WriterCall.indent levels ∈ calls → 0 ≤ levels) ∧
      w.Settled ∧ w.level = 0 ∧ w.output = "  /// See F.\n  func f()" ∧
      (w.call (.unindent 1)).1 = w := by
  intro f c calls w
  have hcalls : ∀ levels, WriterCall.indent levels ∈ calls → 0 ≤ levels := by
    simp [calls]
  have hlevel : w.level = 0 := rfl
  have houtput : w.output = "  /// See F.\n  func f()" := rfl
  obtain ⟨hsettled, -, hunindent⟩ := session_settled "  " calls hcalls
  obtain ⟨hiff, hunchanged⟩ := hunindent 1
  refine ⟨hcalls, hsettled, hlevel, houtput, hunchanged ?_⟩
  rw [ne_eq, hiff]
  exact fun hlow => absurd (hlevel ▸ hlow) (by decide)

end Writer

end SwiftDecl
