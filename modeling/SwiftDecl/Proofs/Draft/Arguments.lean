import SwiftDecl.Proofs.Draft.Calls
import SwiftDecl.Proofs.Template.Taking

/-!
# Arguments of calls

Calls that fill a template come with positional arguments, and an argument that no slot takes should
be refused. The check looks at the arguments only if the template has slots, and a block that is
added to a body is taken without a look at the arguments beside it. So an accepted call leaves an
argument out exactly if it comes with arguments and has no slot to ask for one, and never otherwise
(`arguments_taken_iff`).
-/

namespace SwiftDecl

open Template

/-! ## Calls on blocks -/

/-- A call on a block that fills a template with positional arguments. -/
inductive BlockCall where
  | add (format : String) (arguments : List Argument)
  | addStatement (format : String) (arguments : List Argument)
  | beginControlFlow (name condition : String) (arguments : List Argument)
  | nextControlFlow (name condition : String) (arguments : List Argument)

namespace BlockCall

/-- The template that is filled. -/
def template : BlockCall → String
  | add format _ => format
  | addStatement format _ => format
  | beginControlFlow name condition _ => Code.headerTemplate name condition
  | nextControlFlow name condition _ => Code.headerTemplate name condition

/-- The arguments that come with the call. -/
def arguments : BlockCall → List Argument
  | add _ arguments => arguments
  | addStatement _ arguments => arguments
  | beginControlFlow _ _ arguments => arguments
  | nextControlFlow _ _ arguments => arguments

/-- The positions of the arguments that the slots of the call ask for. -/
def asked (call : BlockCall) : List Nat :=
  Template.asked call.template

end BlockCall

namespace Code

/-- A block after a call that either changes it or is refused. -/
def attempt (c : Code) : Except TemplateError Code → Code × Option TemplateError
  | .ok changed => (changed, none)
  | .error e => (c, some e)

/-- Makes a call on a block. The result is the block after it, and the error if the call is
refused. -/
def call (c : Code) : BlockCall → Code × Option TemplateError
  | .add format arguments => c.attempt (c.add format arguments)
  | .addStatement format arguments => c.attempt (c.addStatement format arguments)
  | .beginControlFlow name condition arguments =>
    c.attempt (c.beginControlFlow name condition arguments)
  | .nextControlFlow name condition arguments => c.nextControlFlow name condition arguments

theorem attempt_eq_none_iff {c : Code} {r : Except TemplateError Code} :
    (c.attempt r).2 = none ↔ ∃ changed, r = .ok changed ∧ (c.attempt r).1 = changed := by
  cases r <;> simp [attempt]

/-- An accepted call appends its filled template, perhaps between parts that have no slots. -/
theorem call_eq_append {c : Code} {call : BlockCall} (h : (c.call call).2 = none) :
    ∃ added appended, instantiate call.template call.arguments = .ok added ∧
      (c.call call).1 = c ++ appended ∧
      ∀ {positions}, Fills call.arguments added.parts added.arguments positions →
        Fills call.arguments appended.parts appended.arguments positions := by
  -- What stands after the template is text or an indentation, and has no arguments.
  have hbehind {arguments : List Argument} {part : Part} {added : Code} {positions : List Nat}
      (hpart : Fills arguments [part] [] [])
      (hadded : Fills arguments added.parts added.arguments positions) :
      Fills arguments (added ++ ofParts [part]).parts (added ++ ofParts [part]).arguments
        positions := by
    simpa using hadded.append hpart
  cases call with
  | add format arguments =>
    obtain ⟨_, hadd, hblock⟩ := attempt_eq_none_iff.1 h
    obtain ⟨added, hadded, rfl⟩ := add_eq_ok_iff.1 hadd
    exact ⟨added, added, hadded, hblock, fun hfills => hfills⟩
  | addStatement format arguments =>
    obtain ⟨_, hadd, hblock⟩ := attempt_eq_none_iff.1 h
    obtain ⟨added, hadded, rfl⟩ := addStatement_eq_ok_iff.1 hadd
    exact ⟨added, _, hadded, hblock, hbehind (.text "\n" .nil)⟩
  | beginControlFlow name condition arguments =>
    obtain ⟨_, hopen, hblock⟩ := attempt_eq_none_iff.1 h
    obtain ⟨header, hheader, rfl⟩ := beginControlFlow_eq_ok_iff.1 hopen
    exact ⟨header, _, hheader, hblock, hbehind (.directive .indent .nil)⟩
  | nextControlFlow name condition arguments =>
    -- The end of the branch before has no slots, and is text that no argument fills.
    rcases nextControlFlow_cases c name condition arguments with
      ⟨header, hheader, hnext⟩ | ⟨e, -, hnext⟩
    · refine ⟨header, _, hheader, congrArg Prod.fst hnext, fun hfills => ?_⟩
      exact .directive .unindent (.text "\x7d " (hbehind (.directive .indent .nil) hfills))
    · rw [call, hnext] at h
      cases h

/-- In an accepted call on a block each slot holds what it keeps of the argument that it asks for.
All arguments are asked for, unless there is no slot. -/
theorem call_takes {c : Code} {call : BlockCall} (h : (c.call call).2 = none) :
    (∃ appended, (c.call call).1 = c ++ appended ∧
        Fills call.arguments appended.parts appended.arguments call.asked) ∧
      ((∀ i < call.arguments.length, i ∈ call.asked) ∨ call.asked = []) := by
  obtain ⟨added, appended, hadded, hblock, hfills⟩ := call_eq_append h
  obtain ⟨hslots, htaken⟩ := instantiate_fills hadded
  exact ⟨⟨appended, hblock, hfills hslots⟩, htaken⟩

end Code

/-! ## Calls on drafts -/

namespace DraftCall

/-- The call on the documentation or the body that a call on a draft makes, if it fills a template
with positional arguments. -/
def blockCall? : DraftCall → Option BlockCall
  | addDoc (.template format arguments) => some (.add format arguments)
  | addCode (.template format arguments) => some (.add format arguments)
  | addComment format arguments => some (.add ("// " ++ format ++ "\n") arguments)
  | addStatement format arguments => some (.addStatement format arguments)
  | beginControlFlow name condition arguments => some (.beginControlFlow name condition arguments)
  | nextControlFlow name condition arguments => some (.nextControlFlow name condition arguments)
  | _ => none

/-- The positional arguments that come with a call. -/
def arguments : DraftCall → List Argument
  | addDoc (.block _ arguments) => arguments
  | addCode (.block _ arguments) => arguments
  | c => c.blockCall?.elim [] BlockCall.arguments

/-- The positions of the arguments that the slots of the call ask for. A block has its own
arguments, so it asks for none. -/
def asked (c : DraftCall) : List Nat :=
  c.blockCall?.elim [] BlockCall.asked

theorem arguments_of_blockCall {c : DraftCall} {call : BlockCall} (h : c.blockCall? = some call) :
    c.arguments = call.arguments := by
  cases c with
  | addDoc source => cases source <;> cases h; rfl
  | addCode source => cases source <;> cases h; rfl
  | addComment | addStatement | beginControlFlow | nextControlFlow => cases h; rfl
  | _ => cases h

end DraftCall

/-! ## Calls on drafts that fill templates -/

namespace FunctionDraft

variable {d : FunctionDraft} {c : DraftCall} {call : BlockCall}

/-- Documentation that a template fills is that of the call on it, refused or not. -/
theorem attempt_filledDoc (d : FunctionDraft) (r : Except TemplateError Code) :
    d.attempt (do return { d with doc := ← Fault.ofTemplate r }) =
      ({ d with doc := (d.doc.attempt r).1 }, (d.doc.attempt r).2.map .template) := by
  cases r <;> rfl

/-- A body that a template fills is refused in an abstract function. In any other it is that of the
call on it, refused or not. -/
theorem attempt_filledBody (d : FunctionDraft) (r : Except TemplateError Code) :
    (d.isAbstract = true ∧
      d.attempt (do d.checkHasBody; return { d with body := ← Fault.ofTemplate r }) =
        (d, some (.grammar ⟨d.name, .abstractWithCode⟩))) ∨
    (d.isAbstract = false ∧
      d.attempt (do d.checkHasBody; return { d with body := ← Fault.ofTemplate r }) =
        ({ d with body := (d.body.attempt r).1 }, (d.body.attempt r).2.map .template)) := by
  cases hbody : d.isAbstract with
  | true =>
    have hchecked : d.checkHasBody = .error (.grammar ⟨d.name, .abstractWithCode⟩) := by
      simp [checkHasBody, hbody]
    rw [hchecked]
    exact .inl ⟨rfl, rfl⟩
  | false =>
    rw [checkHasBody_eq_ok_iff.2 hbody]
    refine .inr ⟨rfl, ?_⟩
    rw [← hbody]
    cases r <;> rfl

/-- The fields of a draft that a call with a template can change. -/
inductive FilledBy (d : FunctionDraft) (call : BlockCall) :
    FunctionDraft × Option Fault → Prop where
  | doc : FilledBy d call
      ({ d with doc := (d.doc.call call).1 }, (d.doc.call call).2.map .template)
  | body (h : d.isAbstract = false) : FilledBy d call
      ({ d with body := (d.body.call call).1 }, (d.body.call call).2.map .template)
  | refused (h : d.isAbstract = true) : FilledBy d call
      (d, some (.grammar ⟨d.name, .abstractWithCode⟩))

/-- A call with a template is the call on the documentation or on the body, unless the function has
no body. -/
theorem call_filledBy (h : c.blockCall? = some call) : FilledBy d call (d.call c) := by
  -- Five of the calls fill the body after the same check.
  have hfilled {r : Except TemplateError Code} (hcall : d.body.call call = d.body.attempt r) :
      FilledBy d call
        (d.attempt (do d.checkHasBody; return { d with body := ← Fault.ofTemplate r })) := by
    rcases d.attempt_filledBody r with ⟨habstract, hrefused⟩ | ⟨hbody, hbodyCall⟩
    · rw [hrefused]
      exact .refused habstract
    · rw [hbodyCall, ← hcall]
      exact .body hbody
  cases c with
  | addDoc source =>
    cases source with
    | template format arguments =>
      cases h
      have hdoc : d.call (.addDoc (.template format arguments)) = _ :=
        d.attempt_filledDoc (d.doc.add format arguments)
      rw [hdoc]
      exact .doc
    | block code arguments => cases h
  | addCode source =>
    cases source with
    | template format arguments =>
      cases h
      exact hfilled (r := d.body.add format arguments) rfl
    | block code arguments => cases h
  | addComment format arguments =>
    cases h
    exact hfilled (r := d.body.add ("// " ++ format ++ "\n") arguments) rfl
  | addStatement format arguments =>
    cases h
    exact hfilled (r := d.body.addStatement format arguments) rfl
  | beginControlFlow name condition arguments =>
    cases h
    exact hfilled (r := d.body.beginControlFlow name condition arguments) rfl
  | nextControlFlow name condition arguments =>
    cases h
    -- The one call that can fail and leave a changed body, so the lemma of the five does not
    -- apply.
    rcases d.nextControlFlow_cases name condition arguments with
      ⟨habstract, hrefused⟩ | ⟨hbody, hnext⟩
    · have hcall : d.call (.nextControlFlow name condition arguments) = _ := hrefused
      rw [hcall]
      exact .refused habstract
    · have hcall : d.call (.nextControlFlow name condition arguments) = _ := hnext
      rw [hcall]
      exact .body hbody
  | _ => cases h

/-- A call with a template is accepted if the call on the documentation or on the body is. It
appends what that call appends. -/
theorem call_fills (h : c.blockCall? = some call) (haccepted : (d.call c).2 = none) :
    (∃ appended, ((d.call c).1 = { d with doc := d.doc ++ appended } ∨
          (d.call c).1 = { d with body := d.body ++ appended }) ∧
        Fills call.arguments appended.parts appended.arguments call.asked) ∧
      ((∀ i < call.arguments.length, i ∈ call.asked) ∨ call.asked = []) := by
  have hfilled := call_filledBy (d := d) h
  generalize d.call c = result at hfilled haccepted
  cases hfilled with
  | doc =>
    obtain ⟨⟨appended, hdoc, hfills⟩, htaken⟩ :=
      Code.call_takes (Option.map_eq_none_iff.1 haccepted)
    exact ⟨⟨appended, .inl (by rw [hdoc]), hfills⟩, htaken⟩
  | body _ =>
    obtain ⟨⟨appended, hbody, hfills⟩, htaken⟩ :=
      Code.call_takes (Option.map_eq_none_iff.1 haccepted)
    exact ⟨⟨appended, .inr (by rw [hbody]), hfills⟩, htaken⟩
  | refused _ => cases haccepted

/-- In an accepted call all arguments are asked for, unless there is no slot. -/
theorem call_asks (haccepted : (d.call c).2 = none) :
    (∀ i < c.arguments.length, i ∈ c.asked) ∨ c.asked = [] := by
  cases hblock : c.blockCall? with
  | none =>
    right
    simp [DraftCall.asked, hblock]
  | some call =>
    have hasked : c.asked = call.asked := by simp [DraftCall.asked, hblock]
    rw [hasked, DraftCall.arguments_of_blockCall hblock]
    exact (call_fills hblock haccepted).2

/-- A call with slots that leaves an argument out is refused, with an error of its template if the
function has a body. -/
theorem call_refused_of_left_out {i : Nat} (hi : i < c.arguments.length) (hleft : i ∉ c.asked)
    (hslots : c.asked ≠ []) :
    (∃ e, (d.call c).2 = some (.template e)) ∨
      (d.isAbstract = true ∧ (d.call c).2 = some (.grammar ⟨d.name, .abstractWithCode⟩)) := by
  -- An accepted call asks for all of its arguments, or has no slots.
  have hrefused : (d.call c).2 ≠ none := by
    intro haccepted
    rcases call_asks haccepted with hall | hnone
    · exact hleft (hall i hi)
    · exact hslots hnone
  cases hblock : c.blockCall? with
  | none => exact absurd (by simp [DraftCall.asked, hblock]) hslots
  | some call =>
    have hfilled := call_filledBy (d := d) hblock
    generalize d.call c = result at hfilled hrefused
    cases hfilled with
    | doc =>
      -- on the documentation
      obtain ⟨fault, hfault⟩ := Option.ne_none_iff_exists'.1 hrefused
      obtain ⟨e, -, rfl⟩ := Option.map_eq_some_iff.1 hfault
      exact .inl ⟨e, hfault⟩
    | body _ =>
      -- on the body
      obtain ⟨fault, hfault⟩ := Option.ne_none_iff_exists'.1 hrefused
      obtain ⟨e, -, rfl⟩ := Option.map_eq_some_iff.1 hfault
      exact .inl ⟨e, hfault⟩
    | refused habstract => exact .inr ⟨habstract, rfl⟩

/-- Arguments of which all are asked for or none: all are asked for exactly if there are none, or if
there is a slot. -/
theorem all_asked_iff {count : Nat} {asked : List Nat}
    (h : (∀ i < count, i ∈ asked) ∨ asked = []) :
    (∀ i < count, i ∈ asked) ↔ (count = 0 ∨ asked ≠ []) := by
  rcases h with hall | rfl
  · refine ⟨fun _ => ?_, fun _ => hall⟩
    rcases Nat.eq_zero_or_pos count with hzero | hpos
    · exact .inl hzero
    · exact .inr (List.ne_nil_of_mem (hall 0 hpos))
  · constructor
    · intro hall
      left
      exact Nat.eq_zero_of_not_pos fun hpos => List.not_mem_nil (hall 0 hpos)
    · rintro (rfl | hslots)
      · exact fun i hi => absurd hi (Nat.not_lt_zero i)
      · exact absurd rfl hslots

/-- In an accepted call on a block or on a draft, the slots of what is appended hold what they keep
of the arguments that they ask for, and no argument is left out if there is a slot or there are no
arguments; otherwise all are. A call with slots that leaves an argument out is refused, and so is
documentation that is a block with arguments beside it. -/
theorem arguments_taken_iff (block : Code) (call : BlockCall) (d : FunctionDraft) (c : DraftCall) :
    ((block.call call).2 = none →
      (∃ appended, (block.call call).1 = block ++ appended ∧
        Fills call.arguments appended.parts appended.arguments call.asked) ∧
      ((∀ i < call.arguments.length, i ∈ call.asked) ↔
        (call.arguments.length = 0 ∨ call.asked ≠ []))) ∧
    ((d.call c).2 = none →
      (∀ made, c.blockCall? = some made →
        ∃ appended, ((d.call c).1 = { d with doc := d.doc ++ appended } ∨
            (d.call c).1 = { d with body := d.body ++ appended }) ∧
          Fills made.arguments appended.parts appended.arguments made.asked) ∧
      ((∀ i < c.arguments.length, i ∈ c.asked) ↔ (c.arguments.length = 0 ∨ c.asked ≠ []))) ∧
    (∀ i < call.arguments.length, i ∉ call.asked → call.asked ≠ [] →
      ∃ e, (block.call call).2 = some e) ∧
    (∀ i < c.arguments.length, i ∉ c.asked → c.asked ≠ [] →
      (∃ e, (d.call c).2 = some (.template e)) ∨
        (d.isAbstract = true ∧ (d.call c).2 = some (.grammar ⟨d.name, .abstractWithCode⟩))) ∧
    (∀ code arguments, c = .addDoc (.block code arguments) → arguments ≠ [] →
      (d.call c).2 = some (.argumentsWithBlock arguments.length)) := by
  refine ⟨fun haccepted => ?_, fun haccepted => ?_, fun i hi hleft hslots => ?_,
    fun i hi hleft hslots => call_refused_of_left_out hi hleft hslots, ?_⟩
  · obtain ⟨hfills, htaken⟩ := Code.call_takes haccepted
    exact ⟨hfills, all_asked_iff htaken⟩
  · exact ⟨fun made hmade => (call_fills hmade haccepted).1, all_asked_iff (call_asks haccepted)⟩
  · refine Option.ne_none_iff_exists'.1 fun haccepted => ?_
    rcases (Code.call_takes haccepted).2 with hall | hnone
    · exact hleft (hall i hi)
    · exact hslots hnone
  · rintro code arguments rfl harguments
    cases arguments with
    | nil => exact absurd rfl harguments
    | cons a as => rfl

/-- Two arguments in reverse order are both taken, by a block and by the body of a function. -/
theorem reversed_arguments_taken :
    (∀ i < 2, i ∈ Template.asked "%2L%1L") ∧
      ∃ appended, (({ name := "f" } : FunctionDraft).call
          (.addCode (.template "%2L%1L" [.text "a", .text "b"]))).1 =
            { name := "f", body := appended } ∧
        Fills [.text "a", .text "b"] appended.parts appended.arguments [1, 0] := by
  obtain ⟨hblock, hdraft, -⟩ := arguments_taken_iff {} (.add "%2L%1L" [.text "a", .text "b"])
    { name := "f" } (.addCode (.template "%2L%1L" [.text "a", .text "b"]))
  have hasked : (BlockCall.add "%2L%1L" [.text "a", .text "b"]).asked = [1, 0] := rfl
  refine ⟨(hblock rfl).2.2 (.inr (by rw [hasked]; simp)), ?_⟩
  obtain ⟨appended, hdoc | hbody, hfills⟩ :=
    (hdraft rfl).1 (.add "%2L%1L" [.text "a", .text "b"]) rfl
  · -- The documentation stays empty, so the code is in the body.
    cases congrArg (fun d : FunctionDraft => d.body.parts) hdoc
  · exact ⟨appended, by simpa using hbody, hfills⟩

/-- An argument can be left out without a word: a template without slots takes any arguments, and so
does a block that is added to a body. -/
theorem arguments_left_out :
    (¬ ∀ (c : Code) (call : BlockCall), (c.call call).2 = none →
      ∀ i < call.arguments.length, i ∈ call.asked) ∧
    (¬ ∀ (d : FunctionDraft) (code : Code) (arguments : List Argument),
      (d.call (.addCode (.block code arguments))).2 = none → arguments = []) := by
  refine ⟨fun hall => ?_, fun hall => ?_⟩
  · exact List.not_mem_nil (hall {} (.add "x" [.text "a"]) rfl 0 Nat.zero_lt_one)
  · cases hall { name := "f" } {} [.text "a"] rfl

end FunctionDraft

end SwiftDecl
