import SwiftDecl.Proofs.Document.Rendering
import SwiftDecl.Proofs.FunctionKind

/-!
# The kind that a name selects

The kind of a declaration is the one that its name selects, also where a document states a kind. A
stated kind other than that of functions brings a name that selects it. A function brings the name
that the document gives, so it is an ordinary function under a plain name only; a reserved name and
a name with the mark of operators select the kinds that they stand for.
-/

namespace SwiftDecl

namespace Document

variable {d : Document} {f : FunctionDecl} {label : String}

/-- A stated kind other than that of functions is the kind of the declaration. -/
theorem declaredKind_of_ne_ordinary (h : d.kind ≠ .ordinary) : d.declaredKind = d.kind := by
  unfold declaredKind declaredName
  cases hreserved : d.kind.reservedName? with
  | some name => exact FunctionKind.ofName_of_reserved hreserved
  | none =>
    rcases FunctionKind.reservedName?_eq_none_iff.1 hreserved with hordinary | hoperator
    · exact absurd hordinary h
    · rw [hoperator]
      exact FunctionKind.ofName_of_marked _

/-- A stated function has the name that is given. -/
theorem declaredName_of_ordinary (h : d.kind = .ordinary) : d.declaredName = d.name.getD "" := by
  unfold declaredName
  rw [h]
  exact String.empty_append

theorem Describes.kind_eq (h : d.Describes f) : f.kind = d.declaredKind := by
  rw [FunctionDecl.kind, h.name, declaredKind]

/-- An ordinary function is written with its keyword and its name, in full. -/
theorem Describes.writes_ordinary (h : d.Describes f)
    (habstract : d.isAbstract = true → d.statements = []) (hkind : f.kind = .ordinary)
    (unit : String) (implied : ModifierSet) (concise : Bool) :
    ∃ w, ({ unit } : Writer).Writes (f.layout implied concise) w ∧
      w.output = d.docText ++ (attributesText f.attributes ++ modifiersText f.modifiers implied ++
        "func " ++ f.signature.spelled (escapeReserved f.name) true true) ++
        (if d.isAbstract then "" else " \x7b\n" ++ d.bodyText unit ++ "\x7d\n") := by
  have hfull : ¬ f.IsShort concise := by
    rintro ⟨hgetter, -⟩
    rw [hkind] at hgetter
    cases hgetter
  obtain ⟨w, hwrites, -, houtput⟩ := writes_full h habstract hfull unit implied
  have hprinted : FunctionKind.printedName f.name = escapeReserved f.name := by
    have hname : FunctionKind.ofName f.name = .ordinary := hkind
    rw [FunctionKind.printedName, hname]
    rfl
  refine ⟨w, hwrites, ?_⟩
  rw [houtput, FunctionDecl.header, hkind, hprinted]
  rfl

/-- A stated function with a plain name is checked by the rules of ordinary functions. -/
theorem grammatical_iff_of_plain {name : String} (hkind : d.kind = .ordinary)
    (hname : d.name = some name) (hplain : FunctionKind.IsPlainName name) :
    d.Grammatical ↔
      name ≠ "" ∧ d.isFailable = false ∧ (d.isAbstract = true → d.statements = []) := by
  have hdeclared : d.declaredKind = .ordinary := by
    rw [declaredKind, declaredName_of_ordinary hkind, hname]
    exact FunctionKind.ofName_of_plain hplain
  constructor
  · intro h
    obtain ⟨given, hgiven, hne⟩ := h.given (.inl hkind)
    rw [hname, Option.some.injEq] at hgiven
    refine ⟨hgiven ▸ hne, ?_, h.abstract_statements⟩
    -- Only initializers can be failable.
    rw [← Bool.not_eq_true]
    intro hfailable
    have hinit := h.failable_initializer hfailable
    rw [hdeclared] at hinit
    cases hinit
  · rintro ⟨hne, hfailable, habstract⟩
    refine
      { given := fun _ => ⟨name, hname, hne⟩
        reserved := fun hother => absurd hkind hother
        observer_modifiers := ?_
        accessor_typeVariables := ?_
        getter_parameters := ?_
        one_parameter := ?_
        returns_none := ?_
        failable_initializer := ?_
        abstract_statements := habstract }
    -- The other rules are about other kinds.
    all_goals simp [hdeclared, hfailable]

/-- The name of a declaration selects its kind, also where a document states one. A kind other than
that of functions is kept. A stated function has the kind of its name: that of a reserved name, or
operators for a name with their mark. Under a plain name it is an ordinary function: it is accepted
by the rules of those, and written with the keyword `func` and its own name. -/
theorem kind_follows_name (d : Document) (label : String) :
    (∀ f, d.declaration label = .ok f →
      (d.kind ≠ .ordinary → f.kind = d.kind) ∧
      (d.kind = .ordinary →
        d.name = some f.name ∧
        (∀ kind : FunctionKind, kind.reservedName? = some f.name → f.kind = kind) ∧
        (∀ symbol, f.name = FunctionKind.operatorMark ++ symbol → f.kind = .operator) ∧
        (FunctionKind.IsPlainName f.name →
          f.kind = .ordinary ∧ ∀ unit implied concise, ∃ w,
            ({ unit } : Writer).Writes (f.layout implied concise) w ∧
            w.output = d.docText ++ (attributesText f.attributes ++
              modifiersText f.modifiers implied ++ "func " ++
              f.signature.spelled (escapeReserved f.name) true true) ++
              (if d.isAbstract then "" else " \x7b\n" ++ d.bodyText unit ++ "\x7d\n")))) ∧
    (d.kind = .ordinary → ∀ name, d.name = some name → FunctionKind.IsPlainName name →
      ((∃ f, d.declaration label = .ok f) ↔
        name ≠ "" ∧ d.Readable ∧ d.isFailable = false ∧
          (d.isAbstract = true → d.statements = []))) := by
  -- First what an accepted document gives, then which documents with a plain name are accepted.
  constructor
  · intro f hf
    obtain ⟨⟨-, hgrammatical⟩, hdescribes⟩ := declaration_eq_ok_iff.1 hf
    refine ⟨?_, ?_⟩
    · -- A kind other than the ordinary one is stated, and gives the name.
      intro hother
      rw [hdescribes.kind_eq, declaredKind_of_ne_ordinary hother]
    · intro hkind
      obtain ⟨name, hname, -⟩ := hgrammatical.given (.inl hkind)
      have hfname : f.name = name := by
        rw [hdescribes.name, declaredName_of_ordinary hkind, hname]
        rfl
      subst hfname
      refine ⟨hname, fun kind h => FunctionKind.ofName_of_reserved h, ?_, ?_⟩
      · -- Behind the mark of operators any symbol makes an operator.
        intro symbol hsymbol
        rw [FunctionDecl.kind, hsymbol]
        exact FunctionKind.ofName_of_marked symbol
      · intro hplain
        have hordinary : f.kind = .ordinary := FunctionKind.ofName_of_plain hplain
        exact ⟨hordinary,
          hdescribes.writes_ordinary hgrammatical.abstract_statements hordinary⟩
  · intro hkind name hname hplain
    have hrules := grammatical_iff_of_plain hkind hname hplain
    constructor
    · rintro ⟨f, hf⟩
      obtain ⟨⟨hreadable, hgrammatical⟩, -⟩ := declaration_eq_ok_iff.1 hf
      obtain ⟨hne, hfailable, habstract⟩ := hrules.1 hgrammatical
      exact ⟨hne, hreadable, hfailable, habstract⟩
    · -- A document with a plain name is accepted by the rules that are left for it.
      rintro ⟨hne, hreadable, hfailable, habstract⟩
      obtain ⟨f, hf⟩ := exists_describes hreadable
      exact ⟨f, declaration_eq_ok_iff.2 ⟨⟨hreadable, hrules.2 ⟨hne, hfailable, habstract⟩⟩, hf⟩⟩

/-- The kind is in the name: a document that states a function and names an initializer. -/
theorem stated_kind_not_kept :
    ¬ ∀ (d : Document) (label : String) (f : FunctionDecl), d.declaration label = .ok f →
      f.kind = d.kind := by
  intro h
  have hinit : ({ name := some "init" } : Document).declaration "<string>" =
      .ok { name := "init", doc := {}, signature := {}, body := some {} } := by rfl
  exact absurd (h _ _ _ hinit) (by decide)

end Document

end SwiftDecl
