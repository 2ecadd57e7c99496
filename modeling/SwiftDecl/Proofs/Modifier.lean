import SwiftDecl.Modifier

/-!
# Keywords of modifiers

Each modifier has a keyword of its own, so a list of keywords stands for at most one list of
modifiers, and for one set of them.
-/

namespace SwiftDecl

namespace Modifier

/-- A modifier is found by its keyword. -/
theorem ofKeyword?_keyword (m : Modifier) : ofKeyword? m.keyword = some m := by
  cases m <;> rfl

/-- A keyword gives the modifier that is spelled with it. -/
theorem ofKeyword_eq_ok_iff {keyword : String} {m : Modifier} :
    ofKeyword keyword = .ok m ↔ m.keyword = keyword := by
  unfold ofKeyword
  constructor
  · intro h
    split at h
    · next found hfound =>
      cases h
      simpa using List.find?_some hfound
    · cases h
  · rintro rfl
    rw [ofKeyword?_keyword]

/-- Modifiers with the same keyword are the same. -/
theorem keyword_inj {m n : Modifier} : m.keyword = n.keyword ↔ m = n := by
  constructor
  · intro h
    have hfound := ofKeyword?_keyword m
    rw [h, ofKeyword?_keyword] at hfound
    exact (Option.some.inj hfound).symm
  · rintro rfl
    rfl

/-- Each of the keywords is spelled for some modifier. -/
def AllKnown (keywords : List String) : Prop :=
  ∀ keyword ∈ keywords, ∃ m : Modifier, m.keyword = keyword

/-- Known keywords are those of some modifiers. -/
theorem allKnown_iff {keywords : List String} :
    AllKnown keywords ↔ ∃ ms : List Modifier, ms.map keyword = keywords := by
  constructor
  · intro h
    induction keywords with
    | nil => exact ⟨[], rfl⟩
    | cons word rest ih =>
      obtain ⟨m, hm⟩ := h word List.mem_cons_self
      obtain ⟨ms, hms⟩ := ih fun other hother => h other (List.mem_cons_of_mem word hother)
      exact ⟨m :: ms, by rw [List.map_cons, hm, hms]⟩
  · rintro ⟨ms, rfl⟩ word hword
    obtain ⟨m, -, hm⟩ := List.mem_map.1 hword
    exact ⟨m, hm⟩

end Modifier

namespace ModifierSet

/-- The modifiers that are spelled with one of the keywords. -/
def ofKeywords (keywords : List String) : ModifierSet :=
  ofList (Modifier.all.filter fun m => keywords.contains m.keyword)

@[simp] theorem mem_ofKeywords {m : Modifier} {keywords : List String} :
    m ∈ ofKeywords keywords ↔ m.keyword ∈ keywords := by
  simp [ofKeywords, Modifier.mem_all]

/-- The modifiers of a list are those that are spelled with its keywords. -/
theorem ofList_eq_ofKeywords (ms : List Modifier) :
    ofList ms = ofKeywords (ms.map Modifier.keyword) := by
  apply ext
  intro m
  simp [Modifier.keyword_inj]

@[simp] theorem notMem_empty (m : Modifier) : m ∉ (∅ : ModifierSet) :=
  List.not_mem_nil

@[simp] theorem mem_union {m : Modifier} {s t : ModifierSet} : m ∈ s ∪ t ↔ m ∈ s ∨ m ∈ t := by
  show m ∈ ofList (s.toList ++ t.toList) ↔ _
  rw [mem_ofList, List.mem_append]
  rfl

@[simp] theorem empty_union (s : ModifierSet) : ({} : ModifierSet) ∪ s = s := by
  apply ext
  intro m
  simp

/-- The union with no keyword's modifiers is the set itself. -/
@[simp] theorem union_ofKeywords_nil (s : ModifierSet) : s ∪ ofKeywords [] = s := by
  apply ext
  intro m
  simp

end ModifierSet

end SwiftDecl
