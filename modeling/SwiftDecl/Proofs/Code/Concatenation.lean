import SwiftDecl.Proofs.Code.Filling
import SwiftDecl.Proofs.Layout.InTurn

/-!
# Blocks in turn

A block behind another, a block in the slot of another, and blocks with a separator between them
are written as the blocks are in turn (`Code.written_in_turn`). A built block has an argument for
each of its slots, so none of the arguments behind it is taken by its slots; and a separator stands
for itself, whatever characters it has.
-/

namespace SwiftDecl

open Layout

namespace Code

/-! ## Separators -/

theorem layout_ofParts (parts : List Part) : (ofParts parts).layout = fill parts [] := by
  rw [ofParts, Code.layout, Argument.placedAll]

/-- A character before parts is written before them. -/
theorem spells_gluePart {parts : List Part} {s : String} (c : Char)
    (h : Spells (fill parts []) s) :
    Spells (fill (Template.gluePart c parts) []) (String.singleton c ++ s) := by
  have hbefore : Spells (fill (.text (String.singleton c) :: parts) [])
      (String.singleton c ++ s) := by
    rw [fill]
    exact h.cons _
  cases parts with
  | nil => exact hbefore
  | cons p parts =>
    cases p with
    | text front =>
      -- The character and the text after it are one part.
      obtain ⟨honly, hchars⟩ := h
      rw [fill] at honly hchars
      rw [Template.gluePart, fill]
      refine ⟨?_, ?_⟩
      · intro step hstep
        rcases List.mem_cons.1 hstep with rfl | hrest
        · exact ⟨_, rfl⟩
        · exact honly step (List.mem_cons_of_mem _ hrest)
      · rw [chars_text] at hchars ⊢
        rw [String.toList_append, ← hchars]
        simp
    | _ =>
      -- Anything else leaves the character a part of its own.
      exact hbefore

/-- The parts of a text that stands for itself give the text. -/
theorem spells_plainParts (cs : List Char) :
    Spells (fill (Template.plainParts cs) []) (String.ofList cs) := by
  induction cs with
  | nil =>
    rw [Template.plainParts, fill]
    exact spells_nil
  | cons c cs ih =>
    have hcons : String.ofList (c :: cs) = String.singleton c ++ String.ofList cs := by
      simp
    rw [Template.plainParts, hcons]
    split
    · next hc =>
      subst hc
      rw [fill]
      exact ih.cons "%"
    · exact spells_gluePart c ih

/-- A text that stands for itself is written as the text. -/
theorem plain_alike (s : String) : Alike (plain s).layout [.text s] := by
  obtain ⟨honly, hchars⟩ := spells_plainParts s.toList
  rw [String.toList_ofList] at hchars
  have halike := honly.alike
  rwa [hchars, String.ofList_toList, ← layout_ofParts] at halike

/-! ## Joined blocks -/

/-- Blocks behind each other, with a separator between them, are written alike with their layouts
and texts between them. -/
theorem join_alike {blocks : List Code} (separator : String) (h : ∀ c ∈ blocks, c.Aligned) :
    Alike (join blocks separator).layout
      ((blocks.map Code.layout).intersperse [.text separator]).flatten := by
  -- With a first block the separators stand before each of the others.
  have hrest : ∀ (cs : List Code) (c : Code), c.Aligned → (∀ d ∈ cs, d.Aligned) →
      Alike (c ++ joinRest (plain separator) cs).layout
        (((c :: cs).map Code.layout).intersperse [.text separator]).flatten := by
    intro cs
    induction cs with
    | nil =>
      intro c _ _
      rw [joinRest, append_empty]
      simpa using alike_refl c.layout
    | cons d cs ih =>
      intro c hc hcs
      have hd : d.Aligned := hcs d List.mem_cons_self
      have htail := ih d hd fun b hb => hcs b (List.mem_cons_of_mem d hb)
      have hplain : (plain separator).Aligned := (Built.plain separator).aligned
      rw [joinRest, append_assoc, hc.layout_append, hplain.layout_append, List.map_cons,
        List.map_cons, List.intersperse_cons_cons, List.flatten_cons, List.flatten_cons]
      exact (alike_refl c.layout).append ((plain_alike separator).append htail)
  cases blocks with
  | nil =>
    rw [join, layout_empty]
    exact alike_refl []
  | cons c cs =>
    exact hrest cs c (h c List.mem_cons_self) fun d hd => h d (List.mem_cons_of_mem c hd)

/-- A template of two literals gives a block that is written as its arguments are. -/
theorem layout_two_literals (a b : Code) :
    ∃ c, ofTemplate "%L%L" [.code a, .code b] = .ok c ∧ c.layout = a.layout ++ b.layout := by
  refine ⟨{ parts := [.slot .literal, .slot .literal], arguments := [.code a, .code b] }, rfl, ?_⟩
  have hfirst := layout_slot .literal (.code a)
    { parts := [.slot .literal], arguments := [.code b] }
  have hsecond := layout_slot .literal (.code b) {}
  rw [hfirst, hsecond, layout_empty, List.append_nil, Argument.placed, Argument.placed]
  rfl

/-- Built blocks in one are written as they are in turn, in every state of the writer and within
bounds or not: with the same output, level and line, and with the same fault if there is one. This
holds for a block behind another, for two blocks in the slots of a third, and for any number of
blocks with a separator between them, which is written as the text that it is. -/
theorem written_in_turn :
    (∀ a b : Code, a.Built → b.Built → ∀ w : Writer,
      (w.write (a ++ b).layout = w.inTurn Writer.write [a.layout, b.layout] ∧
        w.writeBounded (a ++ b).layout = w.inTurn Writer.writeBounded [a.layout, b.layout]) ∧
      ∃ c, ofTemplate "%L%L" [.code a, .code b] = .ok c ∧
        w.write c.layout = w.inTurn Writer.write [a.layout, b.layout] ∧
        w.writeBounded c.layout = w.inTurn Writer.writeBounded [a.layout, b.layout]) ∧
    ∀ (blocks : List Code) (separator : String), (∀ c ∈ blocks, c.Built) → ∀ w : Writer,
      w.write (join blocks separator).layout =
        w.inTurn Writer.write ((blocks.map Code.layout).intersperse [.text separator]) ∧
      w.writeBounded (join blocks separator).layout =
        w.inTurn Writer.writeBounded ((blocks.map Code.layout).intersperse [.text separator]) := by
  constructor
  · intro a b ha _ w
    have hflatten : [a.layout, b.layout].flatten = a.layout ++ b.layout := by simp
    obtain ⟨c, hc, hlayout⟩ := layout_two_literals a b
    rw [Writer.write_flatten, Writer.writeBounded_flatten, hflatten, ← ha.aligned.layout_append]
    refine ⟨⟨rfl, rfl⟩, c, hc, ?_, ?_⟩
    · rw [hlayout, ha.aligned.layout_append]
    · rw [hlayout, ha.aligned.layout_append]
  · intro blocks separator h w
    have halike := join_alike separator fun c hc => (h c hc).aligned
    rw [Writer.write_flatten, Writer.writeBounded_flatten]
    exact ⟨halike.write w, halike.bounded w⟩

/-- A statement and a way back, in a comment and in the middle of a line: joined by a text that
looks like a template, they are written with the text between them, up to the way back that
fails. -/
theorem written_in_turn_to_fault :
    let a : Code := { parts := [.slot .name, .text " = ", .slot .string, .text ";"]
                      arguments := [.text "x", .text "1"] }
    let b : Code := { parts := [.text "end", .directive .unindent, .text "after"] }
    let w : Writer := { output := "///", atLineStart := false, inDoc := true }
    (a.Built ∧ b.Built) ∧
      w.write (a ++ b).layout = w.inTurn Writer.write [a.layout, b.layout] ∧
      w.write (join [a, b] "%1L\n%").layout =
        w.inTurn Writer.write [a.layout, [.text "%1L\n%"], b.layout] ∧
      w.write (join [a, b] "%1L\n%").layout =
        ({ w with output := "///x = \"1\";%1L\n/// %end" }, some (.unindent 1 0)) := by
  intro a b w
  have hadd : ({} : Code).add "%N = %S;" [.text "x", .text "1"] = .ok a := rfl
  have hadd' : ({} : Code).add "end%<after" [] = .ok b := rfl
  have ha : a.Built := .add .empty hadd
  have hb : b.Built := .add .empty hadd'
  obtain ⟨htwo, hjoined⟩ := written_in_turn
  have hboth : ∀ c ∈ [a, b], c.Built := by
    intro c hc
    have hcases : c = a ∨ c = b := by simpa using hc
    rcases hcases with rfl | rfl
    · exact ha
    · exact hb
  have hturn := (hjoined [a, b] "%1L\n%" hboth w).1
  refine ⟨⟨ha, hb⟩, (htwo a b ha hb w).1.1, hturn, ?_⟩
  rw [hturn]
  rfl

end Code

end SwiftDecl
