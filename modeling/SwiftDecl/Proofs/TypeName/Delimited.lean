import SwiftDecl.Proofs.Text.Delimited
import SwiftDecl.Proofs.TypeName.Printing

/-!
# Texts of type names in one piece

All stops in the text of a type name stand in brackets, if the names in it are identifiers. So the
text is found again in front of every stop (`TypeName.shows_text`).
-/

namespace SwiftDecl

open Text

/-! ## Ends -/

namespace Text

/-- The last character is one, and no dot. -/
def EndsUndotted (cs : List Char) : Prop :=
  ∃ front c, cs = front ++ [c] ∧ c ≠ '.'

theorem EndsUndotted.prepend {cs : List Char} (h : EndsUndotted cs) (front : List Char) :
    EndsUndotted (front ++ cs) := by
  rcases h with ⟨middle, c, rfl, hc⟩
  exact ⟨front ++ middle, c, by simp, hc⟩

/-- A mark at the end that is no dot. -/
theorem endsUndotted_concat (front : List Char) {c : Char} (hc : c ≠ '.') :
    EndsUndotted (front ++ [c]) :=
  ⟨front, c, rfl, hc⟩

end Text

/-! ## Names -/

namespace TypeName

/-- A character of a word is neither a stop nor a bracket. -/
theorem isPlain_of_isWordChar {c : Char} (h : isWordChar c = true) : isPlain c = true := by
  have hother : ∀ d, isWordChar d = false → c ≠ d := by
    rintro d hd rfl
    rw [hd] at h
    cases h
  simp only [isPlain, isStop, isOpening, List.mem_cons, List.not_mem_nil, or_false,
    Bool.and_eq_true, Bool.not_eq_true', decide_eq_false_iff_not, not_or]
  refine ⟨⟨?_, ?_, ?_, ?_, ?_, ?_⟩, ?_, ?_⟩
  all_goals exact hother _ (by decide)

/-- A name is in one piece. -/
theorem IsName.whole {s : String} (h : IsName s) : Whole s.toList :=
  whole_of_plain (List.all_eq_true.2 fun c hc => isPlain_of_isWordChar (h.word c hc))

mutual

/-- All names of the type name are identifiers. A generic type may have no arguments. -/
def IsNamed : TypeName → Prop
  | .declared n => n.WellNamed
  | .parameterized raw arguments => raw.WellNamed ∧ AllNamed arguments
  | .optional wrapped => wrapped.IsNamed
  | .array element => element.IsNamed
  | .dictionary key value => key.IsNamed ∧ value.IsNamed
  | .typeVariable name _ => IsName name

/-- All names of each of the type names are identifiers. -/
def AllNamed : List TypeName → Prop
  | [] => True
  | t :: ts => t.IsNamed ∧ AllNamed ts

end

theorem IsName.endsUndotted {s : String} (h : IsName s) : EndsUndotted s.toList := by
  refine ⟨s.toList.dropLast, s.toList.getLast h.nonempty,
    (List.dropLast_concat_getLast h.nonempty).symm, ?_⟩
  intro hdot
  have hword := h.word _ (List.getLast_mem h.nonempty)
  rw [hdot] at hword
  exact absurd hword (by decide)

end TypeName

/-- A dotted name is in one piece, and ends with a name. -/
theorem DeclaredName.WellNamed.whole {n : DeclaredName} (h : n.WellNamed) :
    Whole n.text.toList ∧ EndsUndotted n.text.toList := by
  rcases n with ⟨module, names⟩
  rcases h with ⟨hne, hnames⟩
  unfold DeclaredName.text
  simp only at hne hnames ⊢
  induction names with
  | nil => exact absurd rfl hne
  | cons s names ih =>
    have hs := hnames s List.mem_cons_self
    cases names with
    | nil =>
      rw [String.intercalate_singleton]
      exact ⟨hs.whole, hs.endsUndotted⟩
    | cons s' names =>
      have hdot : Whole ".".toList := whole_of_plain rfl
      rcases ih (by simp) fun m hm => hnames m (List.mem_cons_of_mem s hm) with ⟨hwhole, hend⟩
      rw [String.intercalate_cons_cons, String.toList_append, String.toList_append]
      exact ⟨(hs.whole.append hdot).append hwhole, hend.prepend _⟩

/-! ## Type names -/

namespace TypeName

/-- The texts of type names with separators between them, as characters. -/
theorem toList_intercalate_texts (separator : String) (ts : List TypeName) :
    (separator.intercalate (texts ts)).toList =
      separator.toList.intercalate (ts.map fun t => t.text.toList) := by
  rw [String.toList_intercalate, texts_eq_map, List.map_map]
  rfl

mutual

/-- The text of a type name is in one piece. -/
theorem IsNamed.whole : ∀ {t : TypeName}, t.IsNamed → Whole t.text.toList
  | .declared n, h => by
    rw [IsNamed] at h
    exact h.whole.1
  | .parameterized raw arguments, h => by
    rw [IsNamed] at h
    have hcomma : Inner ", ".toList := inner_of_no_bracket rfl
    -- The commas stand inside of the brackets, where they are no stops.
    have harguments : Inner (", ".intercalate (texts arguments)).toList := by
      rw [toList_intercalate_texts]
      exact inner_intercalate hcomma (AllNamed.inner h.2)
    have hbracketed :=
      harguments.bracketed (rfl : isOpening '<' = true) (rfl : isClosing '>' = true)
    simpa [text] using h.1.whole.1.append hbracketed
  | .optional wrapped, h => by
    rw [IsNamed] at h
    have hmark : Whole "?".toList := whole_of_plain rfl
    rw [text, String.toList_append]
    exact h.whole.append hmark
  | .array element, h => by
    rw [IsNamed] at h
    have hbracketed := h.whole.inner.bracketed (rfl : isOpening '[' = true)
      (rfl : isClosing ']' = true)
    simpa [text] using hbracketed
  | .dictionary key value, h => by
    rw [IsNamed] at h
    -- So does the colon.
    have hcolon : Inner ": ".toList := inner_of_no_bracket rfl
    have hinner := (h.1.whole.inner.append hcolon).append h.2.whole.inner
    have hbracketed := hinner.bracketed (rfl : isOpening '[' = true) (rfl : isClosing ']' = true)
    simpa [text] using hbracketed
  | .typeVariable name bounds, h => by
    rw [IsNamed] at h
    exact h.whole

theorem AllNamed.inner : ∀ {ts : List TypeName}, AllNamed ts →
    ∀ x ∈ ts.map fun t => t.text.toList, Inner x
  | [], _ => by simp
  | t :: ts, h => by
    rw [AllNamed] at h
    exact List.forall_mem_cons.2 ⟨h.1.whole.inner, AllNamed.inner h.2⟩

end

/-- The text of a type name does not end with a dot. -/
theorem IsNamed.endsUndotted {t : TypeName} (h : t.IsNamed) : EndsUndotted t.text.toList := by
  cases t with
  | declared n =>
    rw [IsNamed] at h
    exact h.whole.2
  | typeVariable name bounds =>
    rw [IsNamed] at h
    exact h.endsUndotted
  | _ =>
    rw [text, String.toList_append]
    exact endsUndotted_concat _ (by decide)

/-- The text of a type is found again before each stop. -/
theorem shows_text {ends : List Char} (hends : ends ⊆ stops) :
    Shows (fun t : TypeName => t.text.toList) text IsNamed ends := by
  intro t u ht hu r s hr hs h
  rcases ht.whole.append_inj hu.whole (hr.mono hends) (hs.mono hends) h with ⟨htext, hrest⟩
  exact ⟨String.toList_inj.1 htext, hrest⟩

end TypeName

end SwiftDecl
