import SwiftDecl.Proofs.Code.Alignment
import SwiftDecl.Proofs.Layout.Blocks
import SwiftDecl.Proofs.Template.Taking

/-!
# Texts of blocks

A template that gives no indentation, filled with strings and type names, is written as texts
alone. `Code.Plain` holds of the blocks that are made of such templates, and their layouts have
nothing but texts (`Code.Plain.onlyTexts`).
-/

namespace SwiftDecl

open Layout

/-- The argument is a string or a type name. -/
def Argument.IsTextual : Argument → Prop
  | .text _ => True
  | .type _ => True
  | _ => False

namespace Template

/-- The template gives no indentation and no space, and its arguments are strings and type
names. -/
structure Plain (format : String) (arguments : List Argument) : Prop where
  directives : ∀ d, .directive d ∈ tokens format → d = .percent
  arguments : ∀ a ∈ arguments, a.IsTextual

/-- The template with named arguments gives no indentation and no space, and its arguments are
strings and type names. -/
structure PlainNamed (format : String) (arguments : List (String × Argument)) : Prop where
  directives : ∀ d, .directive d ∈ namedTokens format → d = .percent
  arguments : ∀ entry ∈ arguments, entry.2.IsTextual

end Template

/-! ## Layouts of blocks -/

namespace Code

theorem layout_text (s : String) (c : Code) :
    Code.layout { c with parts := .text s :: c.parts } = .text s :: c.layout := by
  cases c
  rw [Code.layout, Code.layout, fill]

theorem layout_directive (d : Directive) (c : Code) :
    Code.layout { c with parts := .directive d :: c.parts } = d.layout ++ c.layout := by
  cases c
  rw [Code.layout, Code.layout, fill]

theorem layout_slot (s : Slot) (a : Argument) (c : Code) :
    Code.layout { parts := .slot s :: c.parts, arguments := a :: c.arguments } =
      a.placed s ++ c.layout := by
  cases c
  rw [Code.layout, Code.layout, Argument.placedAll, fill]

theorem layout_empty : Code.layout {} = [] := by
  rw [Code.layout, fill]

/-- Parts with an argument for each slot are filled before others as they are by themselves. -/
theorem fill_append {parts parts' : List Part} {arguments arguments' : List Placed}
    (h : parts.countP Part.isSlot = arguments.length) :
    fill (parts ++ parts') (arguments ++ arguments') =
      fill parts arguments ++ fill parts' arguments' := by
  induction parts generalizing arguments with
  | nil =>
    have hnone : arguments = [] := List.length_eq_zero_iff.1 h.symm
    rw [hnone]
    simp [fill]
  | cons part parts ih =>
    cases part with
    | text s =>
      have hrest := ih (by simpa [Part.isSlot] using h)
      rw [List.cons_append, fill, fill, hrest, List.cons_append]
    | directive d =>
      have hrest := ih (by simpa [Part.isSlot] using h)
      rw [List.cons_append, fill, fill, hrest, List.append_assoc]
    | slot s =>
      cases arguments with
      | nil =>
        -- No slot is without an argument.
        simp [Part.isSlot] at h
      | cons a arguments =>
        have hslot : (Part.slot s).isSlot = true := rfl
        have hrest := ih (by simpa [hslot] using h)
        rw [List.cons_append, List.cons_append, fill, fill, hrest, List.append_assoc]

theorem placedAll_eq_map (arguments : List Argument) :
    Argument.placedAll arguments = arguments.map Argument.placed := by
  induction arguments with
  | nil => rw [Argument.placedAll, List.map_nil]
  | cons a rest ih => rw [Argument.placedAll, ih, List.map_cons]

/-- A block with an argument for each slot is written before a second one as it is by itself. -/
theorem Aligned.layout_append {a b : Code} (h : a.Aligned) :
    (a ++ b).layout = a.layout ++ b.layout := by
  have hlayout : ∀ c : Code, c.layout = fill c.parts (c.arguments.map Argument.placed) := by
    intro c
    cases c
    rw [Code.layout, placedAll_eq_map]
  rw [hlayout, hlayout, hlayout, append_parts, append_arguments, List.map_append]
  exact fill_append (by simpa [Aligned] using h)

end Code

/-! ## Filled slots -/

/-- A string is written as a text, but for slots that take types. -/
theorem Argument.onlyTexts_of_text (s : String) {slot : Slot} (h : slot ≠ .type) :
    OnlyTexts ((Argument.text s).placed slot) := by
  rw [Argument.placed]
  cases slot with
  | type => exact absurd rfl h
  | _ => exact onlyTexts_text _

/-- A type name is written as a text. -/
theorem Argument.onlyTexts_of_type (t : TypeName) (slot : Slot) :
    OnlyTexts ((Argument.type t).placed slot) := by
  rw [Argument.placed]
  cases slot <;> exact onlyTexts_text _

/-- What a slot keeps of a string or a type name is written as texts. -/
theorem Slot.convert_onlyTexts {slot : Slot} {a converted : Argument} (ha : a.IsTextual)
    (h : slot.convert a = .ok converted) : OnlyTexts (converted.placed slot) := by
  cases a with
  | text s =>
    cases slot with
    | type => cases h
    | _ =>
      cases h
      exact Argument.onlyTexts_of_text s (by simp)
  | type t =>
    cases slot with
    | literal =>
      cases h
      exact Argument.onlyTexts_of_type t .literal
    | string =>
      cases h
      exact Argument.onlyTexts_of_text t.plain (by simp)
    | type =>
      cases h
      exact Argument.onlyTexts_of_type t .type
    | name =>
      cases t with
      | typeVariable name bounds =>
        -- A type variable is the one type name with a name of its own.
        cases h
        exact Argument.onlyTexts_of_text name (by simp)
      | _ => cases h
  | _ => cases ha

namespace Template

section Fill

variable {format : String} {arguments : List Argument} {taken taken' : Taken} {c : Code}

/-- A text token fills to its text, before what the other tokens fill to. -/
theorem fillTokens_text_inv {chars : List Char} {ts : List Token}
    (h : fillTokens format arguments taken (.text chars :: ts) = .ok (c, taken')) :
    ∃ rest, fillTokens format arguments taken ts = .ok (rest, taken') ∧
      c.layout = .text (String.ofList chars) :: rest.layout := by
  obtain ⟨rest, hrest, rfl⟩ := fillTokens_text_iff.1 h
  exact ⟨rest, hrest, Code.layout_text _ rest⟩

/-- A directive fills to itself, before what the other tokens fill to. -/
theorem fillTokens_directive_inv {d : Directive} {ts : List Token}
    (h : fillTokens format arguments taken (.directive d :: ts) = .ok (c, taken')) :
    ∃ rest, fillTokens format arguments taken ts = .ok (rest, taken') ∧
      c.layout = d.layout ++ rest.layout := by
  obtain ⟨rest, hrest, rfl⟩ := fillTokens_directive_iff.1 h
  exact ⟨rest, hrest, Code.layout_directive d rest⟩

/-- A slot fills to one of the arguments, before what the other tokens fill to. -/
theorem fillTokens_slot_inv {s : Slot} {digits : List Char} {ts : List Token}
    (h : fillTokens format arguments taken (.slot s digits :: ts) = .ok (c, taken')) :
    ∃ a ∈ arguments, ∃ converted next rest, s.convert a = .ok converted ∧
      fillTokens format arguments next ts = .ok (rest, taken') ∧
      c.layout = converted.placed s ++ rest.layout := by
  obtain ⟨position, next, converted, rest, hnext, hconverted, hrest, rfl⟩ := fillTokens_slot_iff.1 h
  have hlt := (Taken.next_eq_ok hnext).1
  have hget : arguments.getD position .null = arguments[position] := by simp [hlt]
  rw [hget] at hconverted
  exact ⟨_, List.getElem_mem hlt, converted, next, rest, hconverted, hrest,
    Code.layout_slot s converted rest⟩

/-- A character before tokens fills to itself. -/
theorem fillTokens_glue_inv {char : Char} {ts : List Token}
    (h : fillTokens format arguments taken (TokenOf.glue char ts) = .ok (c, taken')) :
    ∃ rest, fillTokens format arguments taken ts = .ok (rest, taken') ∧
      chars c.layout = char :: chars rest.layout := by
  cases ts with
  | nil =>
    obtain ⟨rest, hrest, hc⟩ := fillTokens_text_inv h
    exact ⟨rest, hrest, by rw [hc, chars_text]; simp⟩
  | cons t ts =>
    cases t with
    | text front =>
      obtain ⟨rest, hrest, hc⟩ := fillTokens_text_inv h
      refine ⟨_, fillTokens_text_iff.2 ⟨rest, hrest, rfl⟩, ?_⟩
      rw [hc, chars_text, Code.layout_text, chars_text]
      simp
    | _ =>
      obtain ⟨rest, hrest, hc⟩ := fillTokens_text_inv h
      exact ⟨rest, hrest, by rw [hc, chars_text]; simp⟩

/-- Tokens whose directives are texts fill with strings and type names to texts alone. -/
theorem fillTokens_onlyTexts {ts : List Token}
    (hdirectives : ∀ d, .directive d ∈ ts → OnlyTexts d.layout)
    (harguments : ∀ a ∈ arguments, a.IsTextual)
    (h : fillTokens format arguments taken ts = .ok (c, taken')) : OnlyTexts c.layout := by
  induction ts generalizing taken c with
  | nil =>
    cases h
    rw [Code.layout_empty]
    exact onlyTexts_nil
  | cons t ts ih =>
    have hrest : ∀ d, .directive d ∈ ts → OnlyTexts d.layout :=
      fun d hd => hdirectives d (List.mem_cons_of_mem t hd)
    cases t with
    | text front =>
      obtain ⟨rest, hfilled, hc⟩ := fillTokens_text_inv h
      rw [hc]
      exact (onlyTexts_text _).append (ih hrest hfilled)
    | directive d =>
      obtain ⟨rest, hfilled, hc⟩ := fillTokens_directive_inv h
      rw [hc]
      exact (hdirectives d List.mem_cons_self).append (ih hrest hfilled)
    | slot s digits =>
      -- What the slot keeps comes from one of the arguments, and these are textual.
      obtain ⟨a, ha, converted, next, rest, hconverted, hfilled, hc⟩ := fillTokens_slot_inv h
      rw [hc]
      exact (Slot.convert_onlyTexts (harguments a ha) hconverted).append (ih hrest hfilled)
    | malformed m => exact absurd h fillTokens_malformed

/-- A template whose directives are texts fills with strings and type names to texts alone. -/
theorem instantiate_onlyTexts (hdirectives : ∀ d, .directive d ∈ tokens format → OnlyTexts d.layout)
    (harguments : ∀ a ∈ arguments, a.IsTextual) (h : instantiate format arguments = .ok c) :
    OnlyTexts c.layout := by
  simp only [instantiate, bind_eq_ok_iff, pure_eq_ok_iff] at h
  obtain ⟨⟨filled, taken⟩, hfilled, _, _, rfl⟩ := h
  exact fillTokens_onlyTexts hdirectives harguments hfilled

/-- A plain template fills to texts alone. -/
theorem Plain.onlyTexts (hplain : Plain format arguments)
    (h : instantiate format arguments = .ok c) : OnlyTexts c.layout := by
  refine instantiate_onlyTexts (fun d hd => ?_) hplain.arguments h
  rw [hplain.directives d hd]
  exact onlyTexts_text "%"

end Fill

/-- The argument under a name is one of those given. -/
theorem exists_mem_of_lookup {arguments : List (String × Argument)} {name : String} {a : Argument}
    (h : lookup arguments name = some a) : ∃ entry ∈ arguments, entry.2 = a := by
  unfold lookup at h
  obtain ⟨entry, hentry, rfl⟩ := Option.map_eq_some_iff.1 h
  exact ⟨entry, List.mem_reverse.1 (List.mem_of_find?_eq_some hentry), rfl⟩

/-- Tokens without indentation fill with named strings and type names to texts alone. -/
theorem fillNamed_onlyTexts {format : String} {arguments : List (String × Argument)}
    {ts : List NamedToken} {c : Code}
    (hdirectives : ∀ d, .directive d ∈ ts → d = .percent)
    (harguments : ∀ entry ∈ arguments, entry.2.IsTextual)
    (h : fillNamed format arguments ts = .ok c) : OnlyTexts c.layout := by
  induction ts generalizing c with
  | nil =>
    cases h
    rw [Code.layout_empty]
    exact onlyTexts_nil
  | cons t ts ih =>
    have hrest : ∀ d, .directive d ∈ ts → d = .percent :=
      fun d hd => hdirectives d (List.mem_cons_of_mem t hd)
    cases t with
    | text front =>
      obtain ⟨rest, hfilled, rfl⟩ := fillNamed_text_iff.1 h
      rw [Code.layout_text]
      exact (onlyTexts_text _).append (ih hrest hfilled)
    | directive d =>
      obtain ⟨rest, hfilled, rfl⟩ := fillNamed_directive_iff.1 h
      rw [Code.layout_directive, hdirectives d List.mem_cons_self]
      exact (onlyTexts_text _).append (ih hrest hfilled)
    | slot letter name =>
      -- What the slot keeps comes from one of the arguments, and these are textual.
      obtain ⟨a, slot, converted, rest, hlookup, -, hconverted, hfilled, rfl⟩ :=
        fillNamed_slot_iff.1 h
      obtain ⟨entry, hentry, rfl⟩ := exists_mem_of_lookup hlookup
      rw [Code.layout_slot]
      exact (Slot.convert_onlyTexts (harguments entry hentry) hconverted).append (ih hrest hfilled)
    | malformed m => exact absurd h fillNamed_malformed

/-- A plain template with named arguments fills to texts alone. -/
theorem PlainNamed.onlyTexts {format : String} {arguments : List (String × Argument)} {c : Code}
    (hplain : PlainNamed format arguments) (h : instantiateNamed format arguments = .ok c) :
    OnlyTexts c.layout := by
  unfold instantiateNamed at h
  split at h
  · cases h
  · exact fillNamed_onlyTexts hplain.directives hplain.arguments h

end Template

/-! ## Plain blocks -/

namespace Code

/-- The blocks that are made of plain templates, one after the other. -/
inductive Plain : Code → Prop where
  | empty : Plain {}
  | add {c c' : Code} {format : String} {arguments : List Argument} :
      Plain c → Template.Plain format arguments → c.add format arguments = .ok c' → Plain c'
  | addNamed {c c' : Code} {format : String} {arguments : List (String × Argument)} :
      Plain c → Template.PlainNamed format arguments → c.addNamed format arguments = .ok c' →
        Plain c'
  | addStatement {c c' : Code} {format : String} {arguments : List Argument} :
      Plain c → Template.Plain format arguments → c.addStatement format arguments = .ok c' →
        Plain c'
  | append {a b : Code} : Plain a → Plain b → Plain (a ++ b)

theorem layout_ofText (s : String) : (ofParts [.text s]).layout = [.text s] :=
  (layout_text s {}).trans (by rw [layout_empty])

/-- Plain blocks have an argument for each slot and are written as texts alone. -/
theorem Plain.onlyTexts {c : Code} (h : c.Plain) : c.Aligned ∧ OnlyTexts c.layout := by
  -- Both properties go from two blocks to their sum.
  have happend : ∀ {a b : Code}, a.Aligned ∧ OnlyTexts a.layout → b.Aligned ∧ OnlyTexts b.layout →
      (a ++ b).Aligned ∧ OnlyTexts (a ++ b).layout := by
    intro a b ha hb
    refine ⟨ha.1.append hb.1, ?_⟩
    rw [ha.1.layout_append]
    exact ha.2.append hb.2
  induction h with
  | empty =>
    rw [layout_empty]
    exact ⟨aligned_empty, onlyTexts_nil⟩
  | add _ hplain hadd ih =>
    obtain ⟨added, hadded, rfl⟩ := add_eq_ok_iff.1 hadd
    exact happend ih ⟨instantiate_aligned hadded, hplain.onlyTexts hadded⟩
  | addNamed _ hplain hadd ih =>
    obtain ⟨added, hadded, rfl⟩ := addNamed_eq_ok_iff.1 hadd
    exact happend ih ⟨instantiateNamed_aligned hadded, hplain.onlyTexts hadded⟩
  | addStatement _ hplain hadd ih =>
    obtain ⟨added, hadded, rfl⟩ := addStatement_eq_ok_iff.1 hadd
    have hfeed : OnlyTexts (ofParts [.text "\n"]).layout := by
      rw [layout_ofText]
      exact onlyTexts_text "\n"
    exact happend ih (happend ⟨instantiate_aligned hadded, hplain.onlyTexts hadded⟩ ⟨rfl, hfeed⟩)
  | append _ _ iha ihb => exact happend iha ihb

end Code

end SwiftDecl
