import Mathlib.Data.List.Basic

/-!
# Texts that are found again where they end

A text is written in one piece if all its brackets are closed in it and no stop stands outside of
them. Then its end is found from its start on (`Text.Whole.append_inj`): where a stop follows, the
text in front of it is the only one that could have been written there. With it a list of texts is
found again in what is written for the list, separators in it (`Text.intercalate_inj`).
-/

namespace SwiftDecl.Text

/-! ## Pieces -/

/-- A mark that a piece ends before, outside of brackets. -/
def isStop (c : Char) : Bool :=
  c ∈ [' ', ',', ':', ')', '>', ']']

/-- A bracket that is opened. -/
def isOpening (c : Char) : Bool :=
  c ∈ ['<', '[']

/-- A bracket that is closed. -/
def isClosing (c : Char) : Bool :=
  c ∈ ['>', ']']

/-- The characters up to the first stop outside of brackets, from within as many brackets. -/
def piece : (depth : Nat) → List Char → List Char
  | _, [] => []
  | 0, c :: cs => if isStop c then [] else c :: piece (if isOpening c then 1 else 0) cs
  | depth + 1, c :: cs =>
    c :: piece (if isOpening c then depth + 2 else if isClosing c then depth else depth + 1) cs

/-- The characters are part of one piece, wherever they stand. -/
def Whole (x : List Char) : Prop :=
  ∀ depth r, piece depth (x ++ r) = x ++ piece depth r

/-- The characters are part of one piece, if they stand in brackets. -/
def Inner (x : List Char) : Prop :=
  ∀ depth r, piece (depth + 1) (x ++ r) = x ++ piece (depth + 1) r

/-- Neither a stop nor a bracket. -/
def isPlain (c : Char) : Bool :=
  !isStop c && !isOpening c

variable {x y r s : List Char}

theorem whole_nil : Whole [] := by
  intro depth r
  rfl

theorem Whole.append (hx : Whole x) (hy : Whole y) : Whole (x ++ y) := by
  intro depth r
  rw [List.append_assoc, hx, hy, List.append_assoc]

/-- Every closing bracket is a stop. -/
theorem isStop_of_isClosing {c : Char} (h : isClosing c = true) : isStop c = true := by
  simp only [isClosing, isStop, List.mem_cons, List.not_mem_nil, or_false, decide_eq_true_eq] at h ⊢
  rcases h with rfl | rfl
  · decide
  · decide

/-- Plain characters are part of one piece. -/
theorem whole_of_plain (h : x.all isPlain = true) : Whole x := by
  rw [List.all_eq_true] at h
  intro depth r
  induction x with
  | nil => rfl
  | cons c x ih =>
    have hrest := ih fun d hd => h d (List.mem_cons_of_mem c hd)
    have hc := h c List.mem_cons_self
    simp only [isPlain, Bool.and_eq_true, Bool.not_eq_true'] at hc
    have hclosing : isClosing c = false := by
      rw [← Bool.not_eq_true]
      intro hclosing
      rw [isStop_of_isClosing hclosing] at hc
      cases hc.1
    cases depth with
    | zero => simp [piece, hc.1, hc.2, hrest]
    | succ depth => simp [piece, hc.2, hclosing, hrest]

theorem Whole.inner (h : Whole x) : Inner x :=
  fun depth r => h (depth + 1) r

theorem inner_nil : Inner [] :=
  whole_nil.inner

theorem Inner.append (hx : Inner x) (hy : Inner y) : Inner (x ++ y) := by
  intro depth r
  rw [List.append_assoc, hx, hy, List.append_assoc]

/-- In brackets everything but a bracket is part of the piece. -/
theorem inner_of_no_bracket (h : x.all (fun c => !isOpening c && !isClosing c) = true) :
    Inner x := by
  rw [List.all_eq_true] at h
  intro depth r
  induction x with
  | nil => rfl
  | cons c x ih =>
    have hrest := ih fun d hd => h d (List.mem_cons_of_mem c hd)
    have hc := h c List.mem_cons_self
    simp only [Bool.and_eq_true, Bool.not_eq_true'] at hc
    simp [piece, hc.1, hc.2, hrest]

/-- What stands in brackets is part of one piece with them. -/
theorem Inner.bracketed (h : Inner x) {left right : Char} (hleft : isOpening left = true)
    (hright : isClosing right = true) : Whole (left :: (x ++ [right])) := by
  -- Neither bracket is a stop, and the right one is no opening one.
  have hstop : isStop left = false := by
    simp only [isOpening, List.mem_cons, List.not_mem_nil, or_false, decide_eq_true_eq] at hleft
    rcases hleft with rfl | rfl
    · decide
    · decide
  have hopening : isOpening right = false := by
    simp only [isClosing, List.mem_cons, List.not_mem_nil, or_false, decide_eq_true_eq] at hright
    rcases hright with rfl | rfl
    · decide
    · decide
  -- The closing bracket takes the depth back to where the opening one was read.
  have hback : ∀ depth r, piece (depth + 1) (right :: r) = right :: piece depth r := by
    intro depth r
    simp [piece, hopening, hright]
  intro depth r
  have hinner := h depth (right :: r)
  rw [hback] at hinner
  cases depth with
  | zero => simpa [piece, hstop, hleft] using hinner
  | succ depth => simpa [piece, hleft] using hinner

/-- Texts in brackets, with separators between them. -/
theorem inner_intercalate {separator : List Char} (hseparator : Inner separator)
    {pieces : List (List Char)} (h : ∀ x ∈ pieces, Inner x) :
    Inner (separator.intercalate pieces) := by
  induction pieces with
  | nil => exact inner_nil
  | cons x pieces ih =>
    have hx := h x List.mem_cons_self
    have hrest := ih fun y hy => h y (List.mem_cons_of_mem x hy)
    cases pieces with
    | nil => simpa using hx
    | cons y pieces =>
      rw [List.intercalate_cons_cons]
      exact (hx.append hseparator).append hrest

/-! ## Where a piece ends -/

/-- The first character is one of those. -/
def StartsIn (ends : List Char) (r : List Char) : Prop :=
  ∃ c cs, r = c :: cs ∧ c ∈ ends

theorem startsIn_cons {ends : List Char} {c : Char} (hc : c ∈ ends) (cs : List Char) :
    StartsIn ends (c :: cs) :=
  ⟨c, cs, rfl, hc⟩

theorem StartsIn.mono {ends more : List Char} (h : StartsIn ends r) (hsub : ends ⊆ more) :
    StartsIn more r := by
  rcases h with ⟨c, cs, rfl, hc⟩
  exact ⟨c, cs, rfl, hsub hc⟩

/-- Another character does not come first. -/
theorem StartsIn.ne_cons {ends : List Char} (h : StartsIn ends r) {c : Char} (hc : c ∉ ends)
    (cs : List Char) : r ≠ c :: cs := by
  rcases h with ⟨d, ds, rfl, hd⟩
  intro heq
  cases heq
  exact hc hd

/-- The stops. -/
def stops : List Char :=
  [' ', ',', ':', ')', '>', ']']

/-- A piece ends before a stop. -/
theorem Whole.piece_eq (h : Whole x) (hr : StartsIn stops r) : piece 0 (x ++ r) = x := by
  rcases hr with ⟨c, cs, rfl, hc⟩
  have hstop : isStop c = true := decide_eq_true hc
  rw [h, piece, if_pos hstop, List.append_nil]

/-- A piece does not start with a stop. -/
theorem Whole.ne_stop (h : Whole x) (hx : x ≠ []) {c : Char} (hc : isStop c = true) :
    x ++ r ≠ c :: s := by
  intro heq
  cases x with
  | nil => exact hx rfl
  | cons d x =>
    cases (List.cons.inj heq).1
    have hpiece := h 0 []
    simp [piece, hc] at hpiece

/-- Two pieces before stops are the same if the texts are. -/
theorem Whole.append_inj (hx : Whole x) (hy : Whole y) (hr : StartsIn stops r)
    (hs : StartsIn stops s) (h : x ++ r = y ++ s) : x = y ∧ r = s := by
  have hpiece := hx.piece_eq hr
  rw [h, hy.piece_eq hs] at hpiece
  subst hpiece
  exact ⟨rfl, List.append_cancel_left h⟩

/-! ## Parts that can be left out -/

/-- A part that can be left out is found again where the text after it cannot start like it. -/
theorem optional_inj {a b : Bool} (hr : ¬ x <+: r) (hs : ¬ x <+: s)
    (h : (if a then x else []) ++ r = (if b then x else []) ++ s) : a = b ∧ r = s := by
  cases a <;> cases b
  · exact ⟨rfl, h⟩
  · exact absurd ⟨s, h.symm⟩ hr
  · exact absurd ⟨r, h⟩ hs
  · exact ⟨rfl, List.append_cancel_left h⟩

/-! ## Lists -/

section Lists

variable {α β : Type} {text : α → List Char} {face : α → β} {P : α → Prop} {ends : List Char}

/-- What each text shows is found again before each of the ends. -/
def Shows (text : α → List Char) (face : α → β) (P : α → Prop) (ends : List Char) : Prop :=
  ∀ a b, P a → P b → ∀ r s, StartsIn ends r → StartsIn ends s → text a ++ r = text b ++ s →
    face a = face b ∧ r = s

/-- What the texts of a list show is found again, with separators between the texts, before an end
that is no separator. -/
theorem intercalate_inj (hshows : Shows text face P ends) {d : Char} {ds : List Char}
    (hd : d ∈ ends) {as bs : List α} (has : ∀ a ∈ as, P a) (hbs : ∀ b ∈ bs, P b) (ha : as ≠ [])
    (hb : bs ≠ []) (hr : StartsIn ends r) (hrd : ∀ cs, r ≠ d :: cs) (hs : StartsIn ends s)
    (hsd : ∀ cs, s ≠ d :: cs)
    (h : (d :: ds).intercalate (as.map text) ++ r = (d :: ds).intercalate (bs.map text) ++ s) :
    as.map face = bs.map face ∧ r = s := by
  induction as generalizing bs with
  | nil =>
    -- the last text of the first list
    exact absurd rfl ha
  | cons a as ih =>
    cases bs with
    | nil => exact absurd rfl hb
    | cons b bs =>
      have hshown := hshows a b (has a List.mem_cons_self) (hbs b List.mem_cons_self)
      have hmore : ∀ t : List Char, StartsIn ends ((d :: ds) ++ t) := fun t => startsIn_cons hd _
      cases as with
      | nil =>
        cases bs with
        | nil =>
          -- and of the second
          rcases hshown r s hr hs (by simpa using h) with ⟨hface, hrest⟩
          exact ⟨by simp [hface], hrest⟩
        | cons b' bs =>
          rw [List.map_cons, List.map_cons, List.map_cons, List.intercalate_cons_cons,
            List.append_assoc, List.append_assoc] at h
          -- The second list goes on with a separator, where the first has ended.
          rcases hshown r _ hr (hmore _) (by simpa using h) with ⟨-, hrest⟩
          exact absurd hrest (hrd _)
      | cons a' as =>
        cases bs with
        | nil =>
          rw [List.map_cons, List.map_cons, List.map_cons, List.intercalate_cons_cons,
            List.append_assoc, List.append_assoc] at h
          -- The first list goes on with a separator, where the second has ended.
          rcases hshown _ s (hmore _) hs (by simpa using h) with ⟨-, hrest⟩
          exact absurd hrest.symm (hsd _)
        | cons b' bs =>
          simp only [List.map_cons, List.intercalate_cons_cons, List.append_assoc] at h ih
          -- Both go on.
          rcases hshown _ _ (hmore _) (hmore _) h with ⟨hface, hrest⟩
          have hothers := List.append_cancel_left hrest
          have has' := fun c hc => has c (List.mem_cons_of_mem a hc)
          have hbs' := fun c hc => hbs c (List.mem_cons_of_mem b hc)
          rcases ih has' hbs' (by simp) (by simp) hothers with ⟨hfaces, hend⟩
          refine ⟨?_, hend⟩
          show face a :: (face a' :: as.map face) = face b :: (b' :: bs).map face
          rw [hface, hfaces]

end Lists

end SwiftDecl.Text
