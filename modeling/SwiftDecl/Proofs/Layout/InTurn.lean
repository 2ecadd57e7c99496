import SwiftDecl.Proofs.Layout.Lines

/-!
# Layouts in turn

A layout can be written with one call of the writer or, cut into pieces, with several in turn. Both
leave the writer in the same state, and where one fails, so does the other (`Writer.write_flatten`,
`Writer.writeBounded_flatten`). It does not matter either how a text is cut into pieces
(`Layout.OnlyTexts.alike`).
-/

namespace SwiftDecl

namespace Writer

variable {ε : Type}

/-- Goes on with a call, unless one before it has failed. -/
def andThen (call : Writer → Writer × Option ε) : Writer × Option ε → Writer × Option ε
  | (w, none) => call w
  | (w, some fault) => (w, some fault)

/-- Makes a call for each of the layouts in turn, up to the first that fails. -/
def inTurn (call : Writer → Layout → Writer × Option ε) (w : Writer) :
    List Layout → Writer × Option ε
  | [] => (w, none)
  | layout :: rest => andThen (fun next => next.inTurn call rest) (call w layout)

/-! ## One call or two -/

/-- Two layouts are written with one call as with two. -/
theorem write_append (w : Writer) (a b : Layout) :
    w.write (a ++ b) = andThen (fun next => next.write b) (w.write a) := by
  induction a generalizing w with
  | nil => rfl
  | cons s rest ih =>
    rw [List.cons_append, write, write]
    cases w.step s with
    | ok next => exact ih next
    | error fault => rfl

/-- Two layouts are written within bounds with one call as with two. -/
theorem writeBounded_append (w : Writer) (a b : Layout) :
    w.writeBounded (a ++ b) = andThen (fun next => next.writeBounded b) (w.writeBounded a) := by
  induction a generalizing w with
  | nil => rfl
  | cons s rest ih =>
    rw [List.cons_append, writeBounded, writeBounded]
    obtain ⟨next, fault⟩ := w.stepBounded s
    cases fault with
    | none => exact ih next
    | some fault => rfl

/-- A call that writes two layouts as two calls do writes any number of them as calls in turn. -/
theorem inTurn_eq_flatten {call : Writer → Layout → Writer × Option ε}
    (hnil : ∀ w, call w [] = (w, none))
    (happend : ∀ w a b, call w (a ++ b) = andThen (fun next => call next b) (call w a))
    (w : Writer) (layouts : List Layout) : w.inTurn call layouts = call w layouts.flatten := by
  induction layouts generalizing w with
  | nil => rw [inTurn, List.flatten_nil, hnil]
  | cons a rest ih =>
    rw [inTurn, List.flatten_cons, happend]
    exact congrArg (andThen · (call w a)) (funext ih)

/-- Layouts are written with one call as with calls in turn. -/
theorem write_flatten (w : Writer) (layouts : List Layout) :
    w.inTurn write layouts = w.write layouts.flatten :=
  inTurn_eq_flatten (fun _ => rfl) write_append w layouts

/-- Layouts are written within bounds with one call as with calls in turn. -/
theorem writeBounded_flatten (w : Writer) (layouts : List Layout) :
    w.inTurn writeBounded layouts = w.writeBounded layouts.flatten :=
  inTurn_eq_flatten (fun _ => rfl) writeBounded_append w layouts

/-- Within bounds a text is written character by character. -/
theorem writeBounded_text (w : Writer) (s : String) (rest : Layout) :
    w.writeBounded (.text s :: rest) =
      match w.emitBounded s.toList with
      | (next, none) => next.writeBounded rest
      | (last, some fault) => (last.abandon, some (.indentation fault)) := by
  rw [writeBounded, stepBounded]
  obtain ⟨next, fault⟩ := w.emitBounded s.toList
  cases fault <;> rfl

/-- Characters are written within bounds with one call as with two. -/
theorem emitBounded_append (w : Writer) (cs ds : List Char) :
    w.emitBounded (cs ++ ds) = andThen (fun next => next.emitBounded ds) (w.emitBounded cs) := by
  induction cs generalizing w with
  | nil => rfl
  | cons c cs ih =>
    rw [List.cons_append, emitBounded, emitBounded]
    split
    · rfl
    · exact ih (w.put c)

end Writer

/-! ## Layouts that write alike -/

/-- Every writer does the same with both layouts, within bounds and without. -/
structure Layout.Alike (a b : Layout) : Prop where
  write : ∀ w : Writer, w.write a = w.write b
  bounded : ∀ w : Writer, w.writeBounded a = w.writeBounded b

namespace Layout

variable {a b c d : Layout}

theorem alike_refl (a : Layout) : Alike a a :=
  ⟨fun _ => rfl, fun _ => rfl⟩

theorem Alike.symm (h : Alike a b) : Alike b a :=
  ⟨fun w => (h.write w).symm, fun w => (h.bounded w).symm⟩

theorem Alike.trans (hab : Alike a b) (hbc : Alike b c) : Alike a c :=
  ⟨fun w => (hab.write w).trans (hbc.write w), fun w => (hab.bounded w).trans (hbc.bounded w)⟩

theorem Alike.append (hab : Alike a b) (hcd : Alike c d) : Alike (a ++ c) (b ++ d) where
  write w := by
    rw [Writer.write_append, Writer.write_append, hab.write, funext hcd.write]
  bounded w := by
    rw [Writer.writeBounded_append, Writer.writeBounded_append, hab.bounded, funext hcd.bounded]

/-- Nothing is written alike with a text without characters. -/
theorem alike_text_empty : Alike [] [.text ""] :=
  ⟨fun _ => rfl, fun _ => rfl⟩

/-- Two texts in turn are written alike with one. -/
theorem alike_text_append (s t : String) : Alike [.text s, .text t] [.text (s ++ t)] where
  write w := by
    rw [Writer.write, Writer.write]
    simp only [Writer.step, Writer.write, Writer.emit_append]
  bounded w := by
    rw [Writer.writeBounded_text, Writer.writeBounded_text, String.toList_append,
      Writer.emitBounded_append]
    obtain ⟨next, fault⟩ := w.emitBounded s.toList
    cases fault with
    | none =>
      simp only [Writer.andThen, Writer.writeBounded_text]
    | some fault => rfl

/-- Texts alone are written alike with the one text of their characters. -/
theorem OnlyTexts.alike {layout : Layout} (h : OnlyTexts layout) :
    Alike layout [.text (String.ofList layout.chars)] := by
  induction layout with
  | nil => exact alike_text_empty
  | cons step rest ih =>
    obtain ⟨s, rfl⟩ := h step List.mem_cons_self
    have hrest := ih fun step hstep => h step (List.mem_cons_of_mem _ hstep)
    rw [chars_text, String.ofList_append, String.ofList_toList]
    exact ((alike_refl [.text s]).append hrest).trans (alike_text_append s _)

end Layout

end SwiftDecl
