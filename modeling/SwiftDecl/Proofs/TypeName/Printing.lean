import SwiftDecl.Proofs.TypeName.Acceptance

/-!
# Type names written and read back

The text of a type name is read back as the type name, up to what the text does not show: the
modules, and which names are generic parameters. The text has a cut of its own in front of anything
that does not go on with a word (`Spells`), and the grammar derives the type name from it, so the
parser stops where the text does, whatever mark comes next. What the parser gives shows everything
in its text, so writing and reading it again gives it back, and its text belongs to no other.
-/

namespace SwiftDecl

/-! ## Names -/

/-- An identifier: a word that does not start with a digit. -/
structure TypeName.IsName (s : String) : Prop where
  nonempty : s.toList ≠ []
  word : ∀ c ∈ s.toList, Text.isWordChar c = true
  identifier : TypeName.IsIdentifier s.toList

/-- A declared name has a name at least, and all its names are identifiers. -/
structure DeclaredName.WellNamed (n : DeclaredName) : Prop where
  nonempty : n.names ≠ []
  names : ∀ s ∈ n.names, TypeName.IsName s

/-- A declared name without its module. -/
def DeclaredName.bare (n : DeclaredName) : DeclaredName :=
  { names := n.names }

namespace TypeName

mutual

/-- All names of the type name are identifiers, and no list of names or arguments is empty. The
bounds of a generic parameter are not part of its text and can be anything. -/
def WellNamed : TypeName → Prop
  | .declared n => n.WellNamed
  | .parameterized raw arguments => raw.WellNamed ∧ arguments ≠ [] ∧ AllWellNamed arguments
  | .optional wrapped => wrapped.WellNamed
  | .array element => element.WellNamed
  | .dictionary key value => key.WellNamed ∧ value.WellNamed
  | .typeVariable name _ => IsName name

/-- Each of the type names is well named. -/
def AllWellNamed : List TypeName → Prop
  | [] => True
  | t :: ts => t.WellNamed ∧ AllWellNamed ts

end

mutual

/-- What the text of a type name shows: no modules, and a generic parameter only as the declared
type of its name. -/
def bare : TypeName → TypeName
  | .declared n => .declared n.bare
  | .parameterized raw arguments => .parameterized raw.bare (allBare arguments)
  | .optional wrapped => .optional wrapped.bare
  | .array element => .array element.bare
  | .dictionary key value => .dictionary key.bare value.bare
  | .typeVariable name _ => .named name

/-- What the texts of several type names show. -/
def allBare : List TypeName → List TypeName
  | [] => []
  | t :: ts => t.bare :: allBare ts

end

/-! ## The cut of a written text -/

/-- The characters are cut into the lexemes in front of every text that does not go on with a
word. -/
def Spells (cs : List Char) (ls : List Lexeme) : Prop :=
  ∀ rest ms, (∀ c, rest.head? = some c → Text.isWordChar c = false) → Cut rest ms →
    Cut (cs ++ rest) (ls ++ ms)

variable {cs ds : List Char} {ls ms : List Lexeme}

theorem spells_nil : Spells [] [] := by
  intro rest ms _ h
  exact h

/-- An identifier is one word. -/
theorem IsName.spells {s : String} (h : IsName s) : Spells s.toList [.word s.toList] := by
  intro rest ms hrest hcut
  exact .word h.nonempty h.word hrest hcut

/-- A mark in front is a lexeme of its own. -/
theorem Spells.mark {c : Char} (hc : isPunctuation c = true) (h : Spells cs ls) :
    Spells (c :: cs) (.mark c :: ls) := by
  intro rest ms hrest hcut
  exact .mark hc (h rest ms hrest hcut)

/-- A space in front leaves no trace. -/
theorem Spells.space (h : Spells cs ls) : Spells (' ' :: cs) ls := by
  intro rest ms hrest hcut
  exact .blank rfl (h rest ms hrest hcut)

/-- Two texts with a mark between them, which ends the first. -/
theorem Spells.between {c : Char} (h : Spells cs ls) (hc : isPunctuation c = true)
    (hd : Spells ds ms) : Spells (cs ++ c :: ds) (ls ++ .mark c :: ms) := by
  intro rest ns hrest hcut
  have hhead : ∀ d, (c :: ds ++ rest).head? = some d → Text.isWordChar d = false := by
    intro d hd
    cases hd
    exact not_isWordChar_of_isPunctuation hc
  have hwhole := h _ _ hhead (hd.mark hc rest ns hrest hcut)
  rw [List.append_assoc, List.append_assoc]
  exact hwhole

/-- A mark at the end. -/
theorem Spells.ended {c : Char} (h : Spells cs ls) (hc : isPunctuation c = true) :
    Spells (cs ++ [c]) (ls ++ [.mark c]) :=
  h.between hc spells_nil

/-- A whole text is cut as it is spelled. -/
theorem Spells.cut (h : Spells cs ls) : Cut cs ls := by
  have hcut := h [] [] (fun c hc => by cases hc) .nil
  rwa [List.append_nil, List.append_nil] at hcut

/-! ## The derivation of a written text -/

/-- Identifiers with dots between them are a dotted name. -/
theorem spells_names {s : String} {names : List String} (hs : IsName s)
    (hnames : ∀ n ∈ names, IsName n) :
    ∃ ls, IsNested ls names ∧
      Spells (".".intercalate (s :: names)).toList (.word s.toList :: ls) := by
  induction names generalizing s with
  | nil =>
    refine ⟨[], .nil, ?_⟩
    rw [String.intercalate_singleton]
    exact hs.spells
  | cons n names ih =>
    have hn : IsName n := hnames n List.mem_cons_self
    obtain ⟨ls, hnested, hrest⟩ := ih hn fun m hm => hnames m (List.mem_cons_of_mem n hm)
    refine ⟨.mark '.' :: .word n.toList :: ls, ?_, ?_⟩
    · have hdot := IsNested.dot hn.identifier hnested
      rwa [String.ofList_toList] at hdot
    · rw [String.intercalate_cons_cons, String.toList_append, String.toList_append,
        List.append_assoc]
      exact hs.spells.between rfl hrest

/-- The text of a declared name is a dotted name. -/
theorem spells_declared {n : DeclaredName} (h : n.WellNamed) :
    ∃ ls, IsDeclared ls n.bare ∧ Spells n.text.toList ls := by
  obtain ⟨module, names⟩ := n
  cases names with
  | nil => exact absurd rfl h.nonempty
  | cons s names =>
    have hs : IsName s := h.names s List.mem_cons_self
    obtain ⟨ls, hnested, hspells⟩ :=
      spells_names hs fun n hn => h.names n (List.mem_cons_of_mem s hn)
    refine ⟨_, ?_, hspells⟩
    have hdeclared := IsDeclared.names hs.identifier hnested
    rwa [String.ofList_toList] at hdeclared

mutual

/-- The grammar derives from the text of a type name what the text shows. -/
theorem WellNamed.spells : ∀ {t : TypeName}, t.WellNamed →
    ∃ ls, IsType ls t.bare ∧ Spells t.text.toList ls
  | .declared n, h => by
    rw [WellNamed] at h
    obtain ⟨ls, hdeclared, hspells⟩ := spells_declared h
    exact ⟨ls, .primary (.declared hdeclared), hspells⟩
  | .parameterized raw arguments, h => by
    rw [WellNamed] at h
    obtain ⟨hraw, hne, harguments⟩ := h
    obtain ⟨ns, hdeclared, hname⟩ := spells_declared hraw
    obtain ⟨ls, hlist, hspells⟩ := AllWellNamed.spells hne harguments
    refine ⟨_, .primary (.parameterized hdeclared hlist), ?_⟩
    have hwhole := hname.between (c := '<') rfl (hspells.ended (c := '>') rfl)
    simpa [text] using hwhole
  | .optional wrapped, h => by
    rw [WellNamed] at h
    obtain ⟨ls, htype, hspells⟩ := h.spells
    refine ⟨_, .optional htype, ?_⟩
    simpa [text] using hspells.ended (c := '?') rfl
  | .array element, h => by
    rw [WellNamed] at h
    obtain ⟨ls, htype, hspells⟩ := h.spells
    refine ⟨_, .primary (.array htype), ?_⟩
    simpa [text] using (hspells.ended (c := ']') rfl).mark (c := '[') rfl
  | .dictionary key value, h => by
    rw [WellNamed] at h
    obtain ⟨ks, hkey, hkeySpells⟩ := h.1.spells
    obtain ⟨vs, hvalue, hvalueSpells⟩ := h.2.spells
    refine ⟨_, .primary (.dictionary hkey hvalue), ?_⟩
    have hwhole := hkeySpells.between (c := ':') rfl (hvalueSpells.ended (c := ']') rfl).space
    simpa [text] using hwhole.mark (c := '[') rfl
  | .typeVariable name bounds, h => by
    rw [WellNamed] at h
    refine ⟨[.word name.toList], .primary (.declared ?_), h.spells⟩
    -- The name of a type variable is read back as a declared type.
    have hdeclared := IsDeclared.names h.identifier .nil
    rwa [String.ofList_toList] at hdeclared

/-- The grammar derives from the texts of generic arguments, with commas between them, what the
texts show. -/
theorem AllWellNamed.spells : ∀ {ts : List TypeName}, ts ≠ [] → AllWellNamed ts →
    ∃ ls, IsArguments ls (allBare ts) ∧ Spells (", ".intercalate (texts ts)).toList ls
  | [], hne, _ => absurd rfl hne
  | [t], _, h => by
    rw [AllWellNamed] at h
    obtain ⟨ls, htype, hspells⟩ := h.1.spells
    refine ⟨ls, .one htype, ?_⟩
    rw [texts, texts, String.intercalate_singleton]
    exact hspells
  | t :: u :: ts, _, h => by
    rw [AllWellNamed] at h
    obtain ⟨ls, htype, hspells⟩ := h.1.spells
    obtain ⟨ms, hlist, hrest⟩ := AllWellNamed.spells (List.cons_ne_nil u ts) h.2
    refine ⟨_, .more htype hlist, ?_⟩
    have hwhole := hspells.between (c := ',') rfl hrest.space
    simpa [texts, String.intercalate_cons_cons] using hwhole

end

/-- A well-named type name is read back from its text as what the text shows. -/
theorem WellNamed.parse_text {t : TypeName} (h : t.WellNamed) : parse t.text = .ok t.bare := by
  obtain ⟨ls, htype, hspells⟩ := h.spells
  exact parse_eq_ok_iff.2 ⟨ls, hspells.cut, htype⟩

/-! ## What is read is well named -/

/-- The words among the lexemes are words. -/
def Worded (ls : List Lexeme) : Prop :=
  ∀ w, .word w ∈ ls → w ≠ [] ∧ ∀ c ∈ w, Text.isWordChar c = true

/-- A cut has words for words. -/
theorem Cut.worded (h : Cut cs ls) : Worded ls := by
  induction h with
  | nil =>
    intro w hw
    cases hw
  | blank hc h ih => exact ih
  | mark hc h ih =>
    intro w hw
    rcases List.mem_cons.1 hw with hmark | hrest
    · cases hmark
    · exact ih w hrest
  | word hne hword hmax h ih =>
    intro w hw
    rcases List.mem_cons.1 hw with hfirst | hrest
    · cases hfirst
      exact ⟨hne, hword⟩
    · exact ih w hrest

theorem Worded.mono (h : Worded ls) (hsub : ms ⊆ ls) : Worded ms :=
  fun w hw => h w (hsub hw)

/-- A word that does not start with a digit is an identifier. -/
theorem Worded.isName {w : List Char} (h : Worded (.word w :: ls)) (hw : IsIdentifier w) :
    IsName (String.ofList w) := by
  obtain ⟨hne, hword⟩ := h w List.mem_cons_self
  constructor
  · rwa [String.toList_ofList]
  · rwa [String.toList_ofList]
  · rwa [String.toList_ofList]

/-- The names after dots are identifiers. -/
theorem IsNested.isName {names : List String} (h : IsNested ls names) (hls : Worded ls) :
    ∀ s ∈ names, IsName s := by
  induction h with
  | nil =>
    intro s hs
    cases hs
  | dot hw h ih =>
    intro s hs
    rcases List.mem_cons.1 hs with rfl | hrest
    · exact (hls.mono (List.subset_cons_self _ _)).isName hw
    · exact ih (hls.mono fun l hl => List.mem_cons_of_mem _ (List.mem_cons_of_mem _ hl)) s hrest

/-- A dotted name that is derived is well named and has no module. -/
theorem IsDeclared.wellNamed {n : DeclaredName} (h : IsDeclared ls n) (hls : Worded ls) :
    n.WellNamed ∧ n.bare = n := by
  cases h with
  | names hw h =>
    refine ⟨⟨List.cons_ne_nil _ _, ?_⟩, rfl⟩
    intro s hs
    rcases List.mem_cons.1 hs with rfl | hrest
    · exact hls.isName hw
    · exact h.isName (hls.mono (List.subset_cons_self _ _)) s hrest

mutual

/-- A type that is derived is well named, and its text shows all of it. -/
theorem IsType.wellNamed {ls : List Lexeme} {t : TypeName} :
    IsType ls t → Worded ls → t.WellNamed ∧ t.bare = t
  | .primary h, hls => h.wellNamed hls
  | .optional h, hls => by
    obtain ⟨hnamed, hbare⟩ := h.wellNamed (hls.mono (List.subset_append_left _ _))
    rw [WellNamed, bare, hbare]
    exact ⟨hnamed, rfl⟩

/-- A primary type that is derived is well named, and its text shows all of it. -/
theorem IsPrimary.wellNamed {ls : List Lexeme} {t : TypeName} :
    IsPrimary ls t → Worded ls → t.WellNamed ∧ t.bare = t
  | .array h, hls => by
    obtain ⟨hnamed, hbare⟩ := h.wellNamed (hls.mono (by simp))
    rw [WellNamed, bare, hbare]
    exact ⟨hnamed, rfl⟩
  | .dictionary hk hv, hls => by
    -- The words of the parts are words of the whole.
    obtain ⟨hkey, hkeyBare⟩ := hk.wellNamed (hls.mono (by simp))
    obtain ⟨hvalue, hvalueBare⟩ := hv.wellNamed (hls.mono (by intro l hl; simp [hl]))
    rw [WellNamed, bare, hkeyBare, hvalueBare]
    exact ⟨⟨hkey, hvalue⟩, rfl⟩
  | .declared h, hls => by
    obtain ⟨hnamed, hbare⟩ := h.wellNamed hls
    rw [WellNamed, bare, hbare]
    exact ⟨hnamed, rfl⟩
  | .parameterized hn hs, hls => by
    obtain ⟨hnamed, hbare⟩ := hn.wellNamed (hls.mono (by simp))
    obtain ⟨hne, hall, hallBare⟩ := hs.wellNamed (hls.mono (by intro l hl; simp [hl]))
    rw [WellNamed, bare, hbare, hallBare]
    exact ⟨⟨hnamed, hne, hall⟩, rfl⟩

/-- Generic arguments that are derived are well named, and their texts show all of them. -/
theorem IsArguments.wellNamed {ls : List Lexeme} {ts : List TypeName} :
    IsArguments ls ts → Worded ls → ts ≠ [] ∧ AllWellNamed ts ∧ allBare ts = ts
  | .one h, hls => by
    obtain ⟨hnamed, hbare⟩ := h.wellNamed hls
    simp [AllWellNamed, allBare, hnamed, hbare]
  | .more h hs, hls => by
    obtain ⟨hnamed, hbare⟩ := h.wellNamed (hls.mono (by simp))
    obtain ⟨_, hall, hallBare⟩ := hs.wellNamed (hls.mono (by intro l hl; simp [hl]))
    simp [AllWellNamed, allBare, hnamed, hbare, hall, hallBare]

end

/-- What the parser gives is well named, and its text shows all of it. -/
theorem wellNamed_of_parse {text : String} {t : TypeName} (h : parse text = .ok t) :
    t.WellNamed ∧ t.bare = t := by
  obtain ⟨ls, hcut, htype⟩ := parse_eq_ok_iff.1 h
  exact htype.wellNamed hcut.worded

/-- Writing and reading are inverse. The text of a well-named type name is read back without its
modules, and with each generic parameter as the declared type of its name. A type name that is read
off any text is given back when it is written and read again, so two of them with the same text are
the same. -/
theorem parse_text_inverse :
    (∀ t : TypeName, t.WellNamed → parse t.text = .ok t.bare) ∧
      (∀ text t, parse text = .ok t → parse t.text = .ok t) ∧
      (∀ text text' t t', parse text = .ok t → parse text' = .ok t' → t.text = t'.text →
        t = t') := by
  have hback : ∀ text t, parse text = .ok t → parse t.text = .ok t := by
    intro text t h
    obtain ⟨hnamed, hbare⟩ := wellNamed_of_parse h
    have hread := hnamed.parse_text
    rwa [hbare] at hread
  refine ⟨fun t h => h.parse_text, hback, ?_⟩
  intro text text' t t' h h' hsame
  have hread := hback text t h
  rw [hsame, hback text' t' h'] at hread
  exact (Except.ok.inj hread).symm

/-- A dictionary from a generic parameter to an optional generic type in a module, nested in
another, is read back without the module and with a plain name for the parameter. -/
theorem parse_text_of_dictionary :
    let key : TypeName := .typeVariable "Key" [.named "Hashable"]
    let box : DeclaredName := { module := "Store", names := ["Store", "Box"] }
    let t : TypeName := .dictionary key (.optional (.parameterized box [.array .int, key]))
    t.text = "[Key: Store.Box<[Int], Key>?]" ∧
      parse t.text = .ok (.dictionary (.named "Key")
        (.optional (.parameterized { names := ["Store", "Box"] }
          [.array (.named "Int"), .named "Key"]))) := by
  intro key box t
  have hkey : IsName "Key" := ⟨by decide, List.all_eq_true.1 rfl, by decide⟩
  have hint : IsName "Int" := ⟨by decide, List.all_eq_true.1 rfl, by decide⟩
  have hbox : box.WellNamed := by
    refine ⟨by decide, ?_⟩
    intro s hs
    simp only [box, List.mem_cons, List.not_mem_nil, or_false] at hs
    rcases hs with rfl | rfl
    · exact ⟨by decide, List.all_eq_true.1 rfl, by decide⟩
    · exact ⟨by decide, List.all_eq_true.1 rfl, by decide⟩
  have hnamed : DeclaredName.WellNamed { module := "Swift", names := ["Int"] } :=
    ⟨by decide, fun s hs => by rwa [List.mem_singleton.1 hs]⟩
  have hwell : t.WellNamed := by
    simp [t, key, WellNamed, AllWellNamed, hkey, hbox, int, standard, hnamed]
  exact ⟨rfl, parse_text_inverse.1 t hwell⟩

end TypeName

end SwiftDecl
