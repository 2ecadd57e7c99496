import SwiftDecl.Proofs.Code.Framing

/-!
# Control flow in blocks

A control flow writes its header, an opening brace and an indentation, and later the way back and
a closing brace. The header is a template between a name and a brace that stand for themselves, so
what it is filled to starts with the name and ends with the brace.

`Code.Flowing` holds of the blocks that are made by statements and by control flows that nest. Such
a block goes down by one level for each control flow that it leaves open, and its braces go with it
(`Code.Flowing.takes`).
-/

namespace SwiftDecl

open Layout Text Page

/-! ## Headers of control flow -/

namespace Template

/-- What a header ends with. -/
def opening : List Char :=
  [' ', '\x7b', '\n']

/-- No placeholder goes on into the end of a header. -/
theorem opening_isEnding : IsEnding opening where
  no_percent := by decide
  stops := ⟨' ', _, rfl, by decide, rfl, rfl⟩

end Template

namespace Code

/-- The condition of a header with the space before it. -/
def afterName (condition : String) : List Char :=
  if condition.isEmpty then [] else ' ' :: condition.toList

/-- A header is the name, the condition and a brace. -/
theorem headerTemplate_toList (name condition : String) :
    (headerTemplate name condition).toList =
      Template.escaped name.toList ++ (afterName condition ++ Template.opening) := by
  unfold headerTemplate afterName
  cases condition.isEmpty <;>
    simp [Template.escapePercent, Template.escaped, Template.opening]

/-- A header gives no indentation if its condition does not. -/
theorem header_plain {name condition : String} {arguments : List Argument}
    (h : Template.Plain condition arguments) :
    Template.Plain (headerTemplate name condition) arguments where
  directives := by
    intro d hd
    rw [Template.tokens, headerTemplate_toList] at hd
    rcases Template.mem_scan_escaped hd with hpercent | hrest
    · exact hpercent
    · have hcondition := Template.mem_scan_ending Template.opening_isEnding hrest
      unfold afterName at hcondition
      split at hcondition
      · simp [Template.Token.scan] at hcondition
      · rw [Template.scan_char (by decide), Template.mem_glue_iff] at hcondition
        exact h.directives d hcondition
  arguments := h.arguments

/-- What a header is filled to starts with its name and ends with a brace. -/
theorem header_chars {name condition : String} {arguments : List Argument} {header : Code}
    (h : Template.instantiate (headerTemplate name condition) arguments = .ok header) :
    ∃ filled, chars header.layout = name.toList ++ filled ++ Template.opening := by
  have hending : Template.IsEnding " \x7b\n".toList := Template.opening_isEnding
  obtain ⟨inner, -, hchars⟩ := Template.instantiate_framed hending h
  exact ⟨chars inner.layout, hchars⟩

end Code

/-! ## Statements and control flows -/

namespace Code

/-- A statement without indentation of its own. It is filled to a text without braces, of which no
line starts with white space. -/
structure CleanStatement (format : String) (arguments : List Argument) : Prop where
  plain : Template.Plain format arguments
  text : ∀ added s, ofTemplate format arguments = .ok added → added.text = .ok s → Clean s

/-- A header with a name and without indentation of its own. It is filled to one line, without
braces but for the one at its end, which does not start with white space. -/
structure CleanHeader (name condition : String) (arguments : List Argument) : Prop where
  named : name ≠ ""
  plain : Template.Plain condition arguments
  text : ∀ header s, ofTemplate (headerTemplate name condition) arguments = .ok header →
    header.text = .ok (s ++ " \x7b\n") → Clean s ∧ Inline s

/-- A statement is clean if the text that it is filled to is. -/
theorem CleanStatement.of_text {format s : String} {arguments : List Argument} {added : Code}
    (hplain : Template.Plain format arguments) (hadded : ofTemplate format arguments = .ok added)
    (htext : added.text = .ok s) (hs : Clean s) : CleanStatement format arguments where
  plain := hplain
  text := by
    intro added' s' hadded' htext'
    rw [hadded] at hadded'
    cases hadded'
    rw [htext] at htext'
    cases htext'
    exact hs

/-- A header is clean if the line that it is filled to is. -/
theorem CleanHeader.of_text {name condition s : String} {arguments : List Argument} {header : Code}
    (hnamed : name ≠ "") (hplain : Template.Plain condition arguments)
    (hheader : ofTemplate (headerTemplate name condition) arguments = .ok header)
    (htext : header.text = .ok (s ++ " \x7b\n")) (hs : Clean s) (hline : Inline s) :
    CleanHeader name condition arguments where
  named := hnamed
  plain := hplain
  text := by
    intro header' s' hheader' htext'
    rw [hheader] at hheader'
    cases hheader'
    rw [htext, Except.ok.injEq] at htext'
    have hsame : s' = s := by
      have hlists := congrArg String.toList htext'
      rw [String.toList_append, String.toList_append] at hlists
      exact String.toList_inj.1 (List.append_cancel_right hlists).symm
    rw [hsame]
    exact ⟨hs, hline⟩

/-- The blocks that are made by statements and by control flows that nest, with the number of the
control flows that are open. -/
inductive Flowing : (opened : Nat) → Code → Prop where
  | empty : Flowing 0 {}
  | addStatement {n : Nat} {c c' : Code} {format : String} {arguments : List Argument} :
      Flowing n c → CleanStatement format arguments → c.addStatement format arguments = .ok c' →
        Flowing n c'
  | beginControlFlow {n : Nat} {c c' : Code} {name condition : String}
      {arguments : List Argument} :
      Flowing n c → CleanHeader name condition arguments →
        c.beginControlFlow name condition arguments = .ok c' → Flowing (n + 1) c'
  | nextControlFlow {n : Nat} {c c' : Code} {name condition : String}
      {arguments : List Argument} :
      Flowing (n + 1) c → CleanHeader name condition arguments →
        c.nextControlFlow name condition arguments = (c', none) → Flowing (n + 1) c'
  | endControlFlow {n : Nat} {c : Code} : Flowing (n + 1) c → Flowing n c.endControlFlow

variable {k : Nat}

/-- A statement is written on lines of its own. -/
theorem CleanStatement.takes {format : String} {arguments : List Argument} {added : Code}
    (h : CleanStatement format arguments)
    (hadded : Template.instantiate format arguments = .ok added) :
    Takes (Opened k) (added.layout ++ [.text "\n"]) (Opened k) := by
  have htexts := h.plain.onlyTexts hadded
  have hclean : Clean (String.ofList (chars added.layout)) := h.text added _ hadded htexts.text_eq
  have hlines : Takes (Opened k) (.text (String.ofList (chars added.layout)) :: [.text "\n"])
      (Opened k) :=
    ((takes_clean hclean).strengthen fun _ hp => hp.toSettled).append takes_newline
  exact htexts.takes String.toList_ofList hlines

/-- A header is written on one line, and opens a block. -/
theorem CleanHeader.takes {name condition : String} {arguments : List Argument} {header : Code}
    (h : CleanHeader name condition arguments)
    (hheader : Template.instantiate (headerTemplate name condition) arguments = .ok header) :
    Takes (Settled k) (header.layout ++ [.indent]) (Opened (k + 1)) := by
  have htexts := (header_plain h.plain).onlyTexts hheader
  obtain ⟨filled, hchars⟩ := header_chars hheader
  -- What the header is filled to is its line with the brace behind it.
  have hsum : (String.ofList (name.toList ++ filled) ++ " \x7b\n").toList =
      chars header.layout := by
    rw [hchars, String.toList_append, String.toList_ofList]
    rfl
  have htext : header.text = .ok (String.ofList (name.toList ++ filled) ++ " \x7b\n") := by
    rw [Code.text, htexts.text_eq, ← hsum, String.ofList_toList]
  obtain ⟨hclean, hline⟩ := h.text header _ hheader htext
  -- The line starts with the name, whose first character is neither blank nor a line end.
  have hfirst : ∃ c cs, (String.ofList (name.toList ++ filled)).toList = c :: cs ∧
      isBlank c = false := by
    obtain ⟨c, cs, hname⟩ := List.exists_cons_of_ne_nil
      (fun hnil => h.named (String.toList_eq_nil_iff.1 hnil))
    have hcons : (String.ofList (name.toList ++ filled)).toList = c :: (cs ++ filled) := by
      rw [String.toList_ofList, hname, List.cons_append]
    have hflush := hclean.flush
    have hfeed := hline.one_line
    rw [hcons] at hflush hfeed
    exact ⟨c, cs ++ filled, hcons, hflush.1 rfl fun hsame => hfeed (by simp [hsame])⟩
  have hopened : Takes (Settled k)
      (.text (String.ofList (name.toList ++ filled)) :: [.text " \x7b\n", .indent])
      (Opened (k + 1)) := (takes_word hline hfirst).append takes_open
  exact htexts.takes hsum hopened.text_append

theorem layout_indent : (ofParts [.directive .indent]).layout = [.indent] :=
  (layout_directive .indent {}).trans (by rw [layout_empty]; rfl)

theorem layout_back (s : String) :
    (ofParts [.directive .unindent, .text s]).layout = [.unindent, .text s] :=
  (layout_directive .unindent (ofParts [.text s])).trans (by rw [layout_ofText]; rfl)

/-- A block of statements and control flows goes down by one level for each control flow that is
open at its end. -/
theorem Flowing.takes {n : Nat} {c : Code} (h : c.Flowing n) :
    c.Aligned ∧ ∀ k : Nat, Takes (Opened k) c.layout (Opened (k + n)) := by
  induction h with
  | empty =>
    refine ⟨aligned_empty, fun k => ?_⟩
    rw [layout_empty]
    exact takes_nil
  | addStatement _ hstatement hadd ih =>
    obtain ⟨added, hadded, rfl⟩ := addStatement_eq_ok_iff.1 hadd
    have haligned := instantiate_aligned hadded
    refine ⟨ih.1.append (haligned.append rfl), fun k => ?_⟩
    rw [ih.1.layout_append, haligned.layout_append, layout_ofText]
    exact (ih.2 k).append (hstatement.takes hadded)
  | beginControlFlow _ hclean hbegin ih =>
    -- A header opens a level more.
    obtain ⟨header, hheader, rfl⟩ := beginControlFlow_eq_ok_iff.1 hbegin
    have haligned := instantiate_aligned hheader
    refine ⟨ih.1.append (haligned.append rfl), fun k => ?_⟩
    rw [ih.1.layout_append, haligned.layout_append, layout_indent]
    exact (ih.2 k).append ((hclean.takes hheader).strengthen fun _ hp => hp.toSettled)
  | @nextControlFlow n c c' name condition arguments _ hclean hnext ih =>
    rcases nextControlFlow_cases c name condition arguments with
      ⟨header, hheader, hopened⟩ | ⟨e, _, hrefused⟩
    · -- The branch before is closed, so the header is at the level that it left.
      rw [hnext] at hopened
      cases hopened
      have haligned := instantiate_aligned hheader
      refine ⟨ih.1.append (branchEnd_aligned.append (haligned.append rfl)), fun k => ?_⟩
      rw [ih.1.layout_append, branchEnd_aligned.layout_append, haligned.layout_append, branchEnd,
        layout_back, layout_indent]
      exact (ih.2 k).append
        (takes_branch.append ((hclean.takes hheader).strengthen fun _ hp => hp.toSettled))
    · -- A refused header gives no block.
      rw [hnext] at hrefused
      cases hrefused
  | endControlFlow _ ih =>
    -- The level that a header opened is closed.
    rw [endControlFlow_eq]
    refine ⟨ih.1.append rfl, fun k => ?_⟩
    rw [ih.1.layout_append, layout_back]
    exact (ih.2 k).append takes_close

end Code

end SwiftDecl
