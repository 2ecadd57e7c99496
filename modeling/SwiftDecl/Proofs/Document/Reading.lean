import SwiftDecl.Document.Build
import SwiftDecl.Proofs.Modifier
import SwiftDecl.Proofs.Outcome

/-!
# What the texts of a document are read as

A document is read entry by entry. For each kind of entry the lemmas below say when it can be read
and what it gives: a keyword the modifier that is spelled with it, a text the type that the parser
finds in it, an entry the generic parameter or the parameter with its fields. The readers are not
opened again after that.
-/

namespace SwiftDecl

/-! ## Entries -/

/-- The text is read as the type. -/
def TypeName.IsReadFrom (t : TypeName) (text : String) : Prop :=
  TypeName.parse text = .ok t

/-- The entry is read as the generic parameter. -/
structure TypeVariable.IsReadFrom (v : TypeVariable) (e : TypeVariableEntry) : Prop where
  name : v.name = e.name
  bounds : List.Forall₂ (fun text t => TypeName.IsReadFrom t text) e.bounds v.bounds

/-- The entry is read as the parameter. -/
structure Parameter.IsReadFrom (p : Parameter) (e : ParameterEntry) : Prop where
  name : p.name = e.name
  type : TypeName.IsReadFrom p.type e.type
  label : p.label = e.label
  modifiers : ∀ m, m ∈ p.modifiers ↔ m.keyword ∈ e.modifiers
  default : p.default = e.default.map Document.literalCode
  variadic : p.variadic = e.variadic

/-- An entry is read as a generic parameter exactly if its bounds can be read. -/
theorem TypeVariableEntry.exists_isReadFrom_iff {e : TypeVariableEntry} :
    (∃ v : TypeVariable, v.IsReadFrom e) ↔
      ∀ text ∈ e.bounds, ∃ t : TypeName, t.IsReadFrom text := by
  rw [← exists_forall₂_iff]
  constructor
  · rintro ⟨v, hv⟩
    exact ⟨v.bounds, hv.bounds⟩
  · rintro ⟨bounds, hbounds⟩
    exact ⟨{ name := e.name, bounds }, rfl, hbounds⟩

/-- An entry is read as a parameter exactly if its type can be read. -/
theorem ParameterEntry.exists_isReadFrom_iff {e : ParameterEntry} :
    (∃ p : Parameter, p.IsReadFrom e) ↔ ∃ t : TypeName, t.IsReadFrom e.type := by
  constructor
  · rintro ⟨p, hp⟩
    exact ⟨p.type, hp.type⟩
  · rintro ⟨type, htype⟩
    refine ⟨{ name := e.name, type, label := e.label
              modifiers := ModifierSet.ofKeywords e.modifiers
              default := e.default.map Document.literalCode, variadic := e.variadic }, ?_⟩
    exact ⟨rfl, htype, rfl, fun m => ModifierSet.mem_ofKeywords, rfl, rfl⟩

namespace Document

/-- The modifiers that are read from keywords are those spelled with them. -/
theorem readModifiers_eq_ok_iff {keywords : List String} {ms : List Modifier} :
    readModifiers keywords = .ok ms ↔ ms.map Modifier.keyword = keywords := by
  simp only [readModifiers, mapM_eq_ok_iff, mapError_eq_ok_iff, Modifier.ofKeyword_eq_ok_iff]
  rw [eq_comm, ← List.forall₂_eq_eq_eq, List.forall₂_map_right_iff]
  simp only [eq_comm]

theorem readType_eq_ok_iff {text : String} {t : TypeName} :
    readType text = .ok t ↔ t.IsReadFrom text :=
  mapError_eq_ok_iff

theorem readTypeVariable_eq_ok_iff {e : TypeVariableEntry} {v : TypeVariable} :
    readTypeVariable e = .ok v ↔ v.IsReadFrom e := by
  simp only [readTypeVariable, bind_eq_ok_iff, pure_eq_ok_iff, mapM_eq_ok_iff, readType_eq_ok_iff]
  constructor
  · rintro ⟨bounds, hbounds, rfl⟩
    exact ⟨rfl, hbounds⟩
  · rintro ⟨hname, hbounds⟩
    exact ⟨v.bounds, hbounds, by rw [← hname]⟩

theorem readParameter_eq_ok_iff {e : ParameterEntry} {p : Parameter} :
    readParameter e = .ok p ↔ Modifier.AllKnown e.modifiers ∧ p.IsReadFrom e := by
  simp only [readParameter, bind_eq_ok_iff, pure_eq_ok_iff, mapError_eq_ok_iff,
    readModifiers_eq_ok_iff]
  constructor
  · rintro ⟨type, htype, ms, hms, rfl⟩
    refine ⟨Modifier.allKnown_iff.2 ⟨ms, hms⟩, rfl, htype, rfl, ?_, rfl, rfl⟩
    intro m
    rw [ModifierSet.ofList_eq_ofKeywords, hms, ModifierSet.mem_ofKeywords]
  · rintro ⟨hknown, hread⟩
    obtain ⟨ms, hms⟩ := Modifier.allKnown_iff.1 hknown
    have hmodifiers : p.modifiers = ModifierSet.ofList ms := by
      apply ModifierSet.ext
      intro m
      rw [hread.modifiers, ModifierSet.ofList_eq_ofKeywords, hms, ModifierSet.mem_ofKeywords]
    refine ⟨p.type, hread.type, ms, hms, ?_⟩
    rw [← hread.name, ← hread.label, ← hread.variadic, ← hread.default, ← hmodifiers]
    cases p
    rfl

end Document

end SwiftDecl
