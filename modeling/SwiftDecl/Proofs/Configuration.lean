import SwiftDecl.Config
import SwiftDecl.Proofs.Modifier
import SwiftDecl.Proofs.Outcome

/-!
# What configurations are read from

A text gives a configuration if it is empty or a mapping with the three known keys, each with a
value of its kind. Every other text is refused under its label, with one exception: unknown keys
are listed in their order, and keys of different kinds have none, so the reading breaks off there
(`WriterConfig.reading_contained`).
-/

namespace SwiftDecl

/-- The number is of moderate size: it can be shown, and as many spaces fit into a text. -/
structure IsModerate (i : Int) : Prop where
  writable : Text.isWritable i = true
  copies : Text.copiesFault? i " " = none

/-- A text of spaces and tabs. -/
def IsIndentation (s : String) : Prop :=
  ∀ c ∈ s.toList, c = ' ' ∨ c = '\t'

namespace Data

/-- The entry's whole numbers, as its key and as its value, are of moderate size. -/
def IsModerateEntry (entry : Data × Data) : Prop :=
  ∀ i, entry.1 = .int i ∨ entry.2 = .int i → IsModerate i

/-- The keys have a common order, or there are not two of them. -/
def HaveOrder (keys : List Data) : Prop :=
  keys.length ≤ 1 ∨ ∃ scale, ∀ key ∈ keys, key.scale? = some scale

/-- A field that is there is the value of an entry. -/
theorem mem_of_field? {entries : List (Data × Data)} {key : String} {d : Data}
    (h : field? entries key = some d) : ∃ entry ∈ entries, entry.2 = d := by
  obtain ⟨entry, hfound, hd⟩ := Option.map_eq_some_iff.1 h
  exact ⟨entry, List.mem_of_find?_eq_some hfound, hd⟩

/-- Keys are sorted if they have an order, and are the same keys then. -/
theorem sortKeys?_cases (keys : List Data) :
    (HaveOrder keys ∧ ∃ sorted, sortKeys? keys = some sorted ∧ sorted.Perm keys) ∨
      (¬ HaveOrder keys ∧ sortKeys? keys = none) := by
  match keys with
  | [] => exact .inl ⟨.inl (Nat.zero_le 1), [], rfl, .nil⟩
  | [key] => exact .inl ⟨.inl (Nat.le_refl 1), [key], rfl, .refl [key]⟩
  | key :: next :: others =>
    have hsort : sortKeys? (key :: next :: others) =
        if key.scale?.isSome && (next :: others).all fun other => other.scale? == key.scale? then
          some ((key :: next :: others).mergeSort le)
        else none := rfl
    rw [hsort]
    -- Two keys or more are compared, so they need one scale; it is that of the first.
    by_cases halike : (key.scale?.isSome && (next :: others).all fun other =>
        other.scale? == key.scale?) = true
    · rw [if_pos halike]
      rw [Bool.and_eq_true, Option.isSome_iff_exists, List.all_eq_true] at halike
      obtain ⟨⟨scale, hscale⟩, hothers⟩ := halike
      refine .inl ⟨.inr ⟨scale, ?_⟩, _, rfl, List.mergeSort_perm _ _⟩
      rw [List.forall_mem_cons]
      refine ⟨hscale, fun other hother => ?_⟩
      rw [← hscale]
      simpa using hothers other hother
    · rw [if_neg halike]
      refine .inr ⟨?_, rfl⟩
      rintro (hfew | ⟨scale, hscale⟩)
      · simp at hfew
      · rw [List.forall_mem_cons] at hscale
        refine halike ?_
        rw [Bool.and_eq_true, hscale.1, List.all_eq_true]
        refine ⟨rfl, fun other hother => ?_⟩
        rw [hscale.2 other hother]
        exact beq_self_eq_true _

end Data

/-- Every message of a problem has the label in it. -/
theorem ConfigProblem.exists_message_eq (label : String) (problem : ConfigProblem) :
    ∃ before after, problem.message label = before ++ label ++ after := by
  cases problem with
  | malformed => exact ⟨"Invalid YAML in ", "", by simp [message]⟩
  | _ => exact ⟨"", _, by simp only [message, String.append_assoc, String.empty_append]; rfl⟩

namespace WriterConfig

variable {label : String} {entries : List (Data × Data)} {c : WriterConfig}

/-! ## Settings -/

/-- A setting is read if it is there, and standard if it is not. -/
theorem setting_eq_ok_iff {α : Type} {key : String} {standard a : α}
    {read : Data → Except ConfigError α} :
    setting entries key standard read = .ok a ↔
      (Data.field? entries key = none ∧ a = standard) ∨
        ∃ d, Data.field? entries key = some d ∧ read d = .ok a := by
  unfold setting
  cases Data.field? entries key with
  | none => simp [eq_comm]
  | some d => simp

/-- A setting is refused for its value. -/
theorem setting_eq_error {α : Type} {key : String} {standard : α}
    {read : Data → Except ConfigError α} {e : ConfigError}
    (h : setting entries key standard read = .error e) :
    ∃ d, Data.field? entries key = some d ∧ read d = .error e := by
  unfold setting at h
  split at h
  · next d hd => exact ⟨d, hd, h⟩
  · cases h

theorem standard_isIndentation : IsIndentation ({} : WriterConfig).indent := by
  have hspaces : "  ".toList = [' ', ' '] := rfl
  simp [IsIndentation, hspaces]

theorem copies_space_isIndentation (i : Int) : IsIndentation (Text.copies i " ") := by
  intro c hc
  have hspace : " ".toList = [' '] := rfl
  rw [Text.copies, if_neg (by decide), String.toList_join, List.mem_flatMap] at hc
  obtain ⟨s, hs, hmem⟩ := hc
  rw [(List.mem_replicate.1 hs).2, hspace, List.mem_singleton] at hmem
  exact .inl hmem

/-- An indentation is read from a number that is not negative, or from a text of spaces and tabs. -/
theorem readIndent_eq_ok_iff {d : Data} {s : String} :
    readIndent label d = .ok s ↔
      (∃ i, d = .int i ∧ 0 ≤ i ∧ Text.copiesFault? i " " = none ∧ s = Text.copies i " ") ∨
        (d = .text s ∧ IsIndentation s) := by
  cases d with
  | int i =>
    simp only [readIndent, Data.int.injEq, reduceCtorEq, false_and, or_false,
      exists_eq_left']
    -- A number below zero is refused, and so is one whose spaces fit into no text.
    by_cases hnegative : i < 0
    · simp [hnegative, Int.not_le.2 hnegative]
    · rw [if_neg hnegative]
      cases hfault : Text.copiesFault? i " " with
      | some fault => simp
      | none => simp [Int.not_lt.1 hnegative, eq_comm]
  | text t =>
    -- a text, which has to be of spaces and tabs
    have hblank : (t.toList.all fun c => c == ' ' || c == '\t') = true ↔ IsIndentation t := by
      simp [IsIndentation]
    simp only [readIndent, hblank, Data.text.injEq, reduceCtorEq, false_and, exists_false, false_or]
    by_cases ht : IsIndentation t
    · rw [if_pos (hblank.2 ht), Except.ok.injEq]
      constructor
      · rintro rfl
        exact ⟨rfl, ht⟩
      · exact fun h => h.1
    · rw [if_neg fun h => ht (hblank.1 h)]
      constructor
      · rintro ⟨⟩
      · rintro ⟨rfl, h⟩
        exact absurd h ht
  | _ => simp [readIndent]

/-- An indentation of moderate size is refused under the label, if at all. -/
theorem readIndent_eq_error {d : Data} {e : ConfigError}
    (hmoderate : ∀ i, d = .int i → IsModerate i) (h : readIndent label d = .error e) :
    ∃ problem, e = .invalid label problem := by
  cases d with
  | int i =>
    simp only [readIndent, (hmoderate i rfl).copies] at h
    split at h
    · cases h
      exact ⟨_, rfl⟩
    · cases h
  | text s =>
    simp only [readIndent] at h
    split at h
    · cases h
    · cases h
      exact ⟨_, rfl⟩
  | _ =>
    cases h
    exact ⟨_, rfl⟩

/-- Modifiers are read from their keywords. -/
theorem readModifiersFrom_eq_ok_iff {position : Nat} {items : List Data} {ms : List Modifier} :
    readModifiersFrom position items = .ok ms ↔
      items = ms.map fun m => .text m.keyword := by
  induction items generalizing position ms with
  | nil =>
    cases ms <;> simp [readModifiersFrom]
  | cons item rest ih =>
    cases item with
    | text keyword =>
      -- Only a text can be a keyword, and it is one of a single modifier.
      simp only [readModifiersFrom, bind_eq_ok_iff, pure_eq_ok_iff, mapError_eq_ok_iff,
        Modifier.ofKeyword_eq_ok_iff, ih]
      constructor
      · rintro ⟨m, rfl, others, rfl, rfl⟩
        rfl
      · intro h
        cases ms with
        | nil => cases h
        | cons m others =>
          rw [List.map_cons, List.cons.injEq, Data.text.injEq] at h
          exact ⟨m, h.1.symm, others, h.2, rfl⟩
    | _ => cases ms <;> simp [readModifiersFrom]

/-- A set of modifiers is read from a list of known keywords. -/
theorem readModifiers_eq_ok_iff {d : Data} {ms : ModifierSet} :
    readModifiers d = .ok ms ↔
      ∃ keywords, d = .list (keywords.map .text) ∧ Modifier.AllKnown keywords ∧
        ms = ModifierSet.ofKeywords keywords := by
  cases d with
  | list items =>
    simp only [readModifiers, bind_eq_ok_iff, pure_eq_ok_iff, readModifiersFrom_eq_ok_iff,
      Data.list.injEq, Modifier.allKnown_iff]
    constructor
    · rintro ⟨found, rfl, rfl⟩
      refine ⟨found.map Modifier.keyword, ?_, ⟨found, rfl⟩, ModifierSet.ofList_eq_ofKeywords found⟩
      rw [List.map_map]
      rfl
    · rintro ⟨_, rfl, ⟨found, rfl⟩, rfl⟩
      refine ⟨found, ?_, (ModifierSet.ofList_eq_ofKeywords found).symm⟩
      rw [List.map_map]
      rfl
  | _ => simp [readModifiers]

theorem readFlag_eq_ok_iff {d : Data} {b : Bool} : readFlag d = .ok b ↔ d = .bool b := by
  cases d <;> simp [readFlag]

/-! ## Mappings -/

/-- The configuration is read from the entries: each setting from its entry, or standard. -/
structure IsReadFrom (c : WriterConfig) (entries : List (Data × Data)) : Prop where
  indent :
    (Data.field? entries "indent" = none ∧ c.indent = "  ") ∨
      (∃ i, Data.field? entries "indent" = some (.int i) ∧ 0 ≤ i ∧
        c.indent = Text.copies i " ") ∨
      (Data.field? entries "indent" = some (.text c.indent) ∧ IsIndentation c.indent)
  implied :
    (Data.field? entries "implicit-modifiers" = none ∧ c.implied = .internal) ∨
      ∃ keywords, Data.field? entries "implicit-modifiers" = some (.list (keywords.map .text)) ∧
        Modifier.AllKnown keywords ∧ ∀ m, m ∈ c.implied ↔ m.keyword ∈ keywords
  conciseGetters :
    (Data.field? entries "concise-getters" = none ∧ c.conciseGetters = false) ∨
      Data.field? entries "concise-getters" = some (.bool c.conciseGetters)

/-- The indentation of a configuration is made of spaces and tabs, however it is given. -/
theorem IsReadFrom.isIndentation (h : c.IsReadFrom entries) : IsIndentation c.indent := by
  rcases h.indent with ⟨-, hstandard⟩ | ⟨i, -, -, hspaces⟩ | ⟨-, htext⟩
  · rw [hstandard]
    exact standard_isIndentation
  · rw [hspaces]
    exact copies_space_isIndentation i
  · exact htext

/-- The entries give the configuration that is read from them. -/
theorem ofEntries_eq_ok_iff (hmoderate : ∀ entry ∈ entries, Data.IsModerateEntry entry) :
    ofEntries label entries = .ok c ↔ c.IsReadFrom entries := by
  simp only [ofEntries, bind_eq_ok_iff, pure_eq_ok_iff, setting_eq_ok_iff, mapError_eq_ok_iff,
    readIndent_eq_ok_iff, readModifiers_eq_ok_iff, readFlag_eq_ok_iff]
  constructor
  · -- What is read of each of the three entries, missing ones by their defaults.
    rintro ⟨indent, hindent, implied, himplied, flag, hflag, rfl⟩
    refine ⟨?_, ?_, ?_⟩
    · rcases hindent with hnone | ⟨_, hsome, ⟨i, rfl, hi, -, hs⟩ | ⟨rfl, hs⟩⟩
      · exact .inl hnone
      · exact .inr (.inl ⟨i, hsome, hi, hs⟩)
      · exact .inr (.inr ⟨hsome, hs⟩)
    · rcases himplied with hnone | ⟨_, hsome, keywords, rfl, hknown, rfl⟩
      · exact .inl hnone
      · exact .inr ⟨keywords, hsome, hknown, fun m => ModifierSet.mem_ofKeywords⟩
    · rcases hflag with hnone | ⟨_, hsome, rfl⟩
      · exact .inl hnone
      · exact .inr hsome
  · -- Conversely each entry as it is described can be read.
    rintro ⟨hindent, himplied, hflag⟩
    refine ⟨c.indent, ?_, c.implied, ?_, c.conciseGetters, ?_, rfl⟩
    · rcases hindent with hnone | ⟨i, hsome, hi, hs⟩ | ⟨hsome, hs⟩
      · exact .inl hnone
      -- Only here the size of a number matters: so many spaces have to fit into a text.
      · obtain ⟨entry, hentry, hvalue⟩ := Data.mem_of_field? hsome
        have hcopies := (hmoderate entry hentry i (.inr hvalue)).copies
        exact .inr ⟨_, hsome, .inl ⟨i, rfl, hi, hcopies, hs⟩⟩
      · exact .inr ⟨_, hsome, .inr ⟨rfl, hs⟩⟩
    · rcases himplied with hnone | ⟨keywords, hsome, hknown, hmembers⟩
      · exact .inl hnone
      · refine .inr ⟨_, hsome, keywords, rfl, hknown, ModifierSet.ext fun m => ?_⟩
        rw [hmembers, ModifierSet.mem_ofKeywords]
    · rcases hflag with hnone | hsome
      · exact .inl hnone
      · exact .inr ⟨_, hsome, rfl⟩

/-- Known entries are refused under the label, if at all. -/
theorem ofEntries_eq_error (hmoderate : ∀ entry ∈ entries, Data.IsModerateEntry entry)
    {e : ConfigError} (h : ofEntries label entries = .error e) :
    ∃ problem, e = .invalid label problem := by
  have hindent : ∀ d, Data.field? entries "indent" = some d → ∀ i, d = .int i → IsModerate i := by
    intro d hd i hi
    obtain ⟨entry, hentry, hvalue⟩ := Data.mem_of_field? hd
    exact hmoderate entry hentry i (.inr (hvalue.trans hi))
  simp only [ofEntries, bind_eq_error_iff] at h
  rcases h with h | ⟨indent, -, h | ⟨implied, -, h | ⟨flag, -, h⟩⟩⟩
  · obtain ⟨d, hd, hread⟩ := setting_eq_error h
    exact readIndent_eq_error (hindent d hd) hread
  · obtain ⟨_, -, hread⟩ := setting_eq_error h
    obtain ⟨problem, -, rfl⟩ := mapError_eq_error_iff.1 hread
    exact ⟨problem, rfl⟩
  · obtain ⟨_, -, hread⟩ := setting_eq_error h
    obtain ⟨problem, -, rfl⟩ := mapError_eq_error_iff.1 hread
    exact ⟨problem, rfl⟩
  · cases h

/-- The keys of the entries that no configuration has. -/
def unknownKeys (entries : List (Data × Data)) : List Data :=
  (entries.map (·.1)).filter fun key => !isKnown key

/-- Known entries are read as settings. -/
theorem ofData_of_known (h : unknownKeys entries = []) :
    ofData label (.map entries) = ofEntries label entries := by
  unfold unknownKeys at h
  simp only [ofData, h]

/-- Entries with unknown keys are refused with a list of these, if the keys have an order. Keys
without an order break the reading off. -/
theorem ofData_of_unknown (label : String)
    (hmoderate : ∀ entry ∈ entries, Data.IsModerateEntry entry)
    (h : unknownKeys entries ≠ []) :
    (Data.HaveOrder (unknownKeys entries) ∧ ∃ sorted, sorted.Perm (unknownKeys entries) ∧
        ofData label (.map entries) = .error (.invalid label (.unknownFields sorted))) ∨
      (¬ Data.HaveOrder (unknownKeys entries) ∧
        ofData label (.map entries) = .error (.crash .keysNotOrdered)) := by
  rcases Data.sortKeys?_cases (unknownKeys entries) with
    ⟨horder, sorted, hsorted, hperm⟩ | ⟨hnone, hsorted⟩
  -- The message shows the keys, so each of their whole numbers has to be one that can be shown.
  · have hwritable : sorted.all Data.isWritable = true := by
      rw [List.all_eq_true]
      intro key hkey
      obtain ⟨entry, hentry, rfl⟩ := List.mem_map.1 (List.mem_filter.1 (hperm.mem_iff.1 hkey)).1
      cases hint : entry.1 with
      | int i => exact (hmoderate entry hentry i (.inl hint)).writable
      | _ => rfl
    refine .inl ⟨horder, sorted, hperm, ?_⟩
    unfold unknownKeys at h hsorted
    rw [ofData]
    split
    · next hknown => exact absurd hknown h
    · rw [hsorted]
      simp only [hwritable, ↓reduceIte]
  · refine .inr ⟨hnone, ?_⟩
    unfold unknownKeys at h hsorted
    rw [ofData]
    split
    · next hknown => exact absurd hknown h
    · rw [hsorted]

/-! ## Values and texts -/

/-- A value gives the standard configuration if it is nothing, and what is read from its entries if
it is a mapping with known keys. -/
theorem ofData_eq_ok_iff {d : Data}
    (hmoderate : ∀ entries, d = .map entries → ∀ entry ∈ entries, Data.IsModerateEntry entry) :
    ofData label d = .ok c ↔
      (d = .null ∧ c = {}) ∨
        ∃ entries, d = .map entries ∧ unknownKeys entries = [] ∧ c.IsReadFrom entries := by
  cases d with
  | null =>
    constructor
    · rintro ⟨⟩
      exact .inl ⟨rfl, rfl⟩
    · rintro (⟨-, rfl⟩ | ⟨_, ⟨⟩, -⟩)
      rfl
  | map entries =>
    have hentries := hmoderate entries rfl
    simp only [Data.map.injEq, reduceCtorEq, false_and, false_or, exists_eq_left']
    by_cases hknown : unknownKeys entries = []
    · rw [ofData_of_known hknown, ofEntries_eq_ok_iff hentries]
      exact (and_iff_right hknown).symm
    · rcases ofData_of_unknown label hentries hknown with ⟨-, _, -, hrefused⟩ | ⟨-, hrefused⟩
      · simp [hrefused, hknown]
      · simp [hrefused, hknown]
  | _ => simp [ofData]

/-- Every other value is refused under the label, unless it has unknown keys without an order. -/
theorem ofData_eq_error {d : Data} {e : ConfigError}
    (hmoderate : ∀ entries, d = .map entries → ∀ entry ∈ entries, Data.IsModerateEntry entry)
    (h : ofData label d = .error e) :
    (∃ problem, e = .invalid label problem) ∨
      (e = .crash .keysNotOrdered ∧ ∃ entries, d = .map entries ∧
        ¬ Data.HaveOrder (unknownKeys entries)) := by
  cases d with
  | null => cases h
  | map entries =>
    have hentries := hmoderate entries rfl
    -- Unknown keys are looked for before any entry is read.
    by_cases hknown : unknownKeys entries = []
    · rw [ofData_of_known hknown] at h
      exact .inl (ofEntries_eq_error hentries h)
    · rcases ofData_of_unknown label hentries hknown with
        ⟨-, sorted, -, hrefused⟩ | ⟨hnone, hrefused⟩
      · rw [hrefused] at h
        cases h
        exact .inl ⟨_, rfl⟩
      · rw [hrefused] at h
        cases h
        exact .inr ⟨rfl, entries, rfl, hnone⟩
  | _ =>
    cases h
    exact .inl ⟨_, rfl⟩

theorem parse_of_load {text : String} {d : Data} (h : Yaml.load text = .ok d) :
    parse text label = ofData label d := by
  rw [parse, h]

theorem parse_eq_ok_iff {text : String} :
    parse text label = .ok c ↔ ∃ d, Yaml.load text = .ok d ∧ ofData label d = .ok c := by
  unfold parse
  cases Yaml.load text with
  | ok d => simp
  | error fault => cases fault <;> simp

/-- A text is refused as malformed, or as the value that it stands for. -/
theorem parse_eq_error {text : String} {e : ConfigError}
    (hvalues : ∀ fault, Yaml.load text ≠ .error (.value fault))
    (h : parse text label = .error e) :
    e = .invalid label .malformed ∨ ∃ d, Yaml.load text = .ok d ∧ ofData label d = .error e := by
  unfold parse at h
  cases hload : Yaml.load text with
  | ok d =>
    rw [hload] at h
    exact .inr ⟨d, rfl, h⟩
  | error fault =>
    rw [hload] at h
    cases fault with
    | malformed m =>
      cases h
      exact .inl rfl
    | value fault => exact absurd hload (hvalues fault)

/-- Let every scalar of the text have a value, and its whole numbers be of moderate size. The text
gives the standard configuration if it is empty, and the configuration that is read from its entries
if these have known keys only; the indentation is made of spaces and tabs. Every other text is
refused with the label in the message, unless the reading breaks off: that happens exactly if there
are unknown keys without an order. Unknown keys that have an order are listed in the message. -/
theorem reading_contained (text label : String)
    (hvalues : ∀ fault, Yaml.load text ≠ .error (.value fault))
    (hmoderate : ∀ entries, Yaml.load text = .ok (.map entries) →
      ∀ entry ∈ entries, Data.IsModerateEntry entry) :
    (∀ c, parse text label = .ok c ↔
      (Yaml.load text = .ok .null ∧ c = {}) ∨
        ∃ entries, Yaml.load text = .ok (.map entries) ∧ unknownKeys entries = [] ∧
          c.IsReadFrom entries) ∧
    (∀ c, parse text label = .ok c → IsIndentation c.indent) ∧
    (∀ e, parse text label = .error e →
      (∃ problem before after, e = .invalid label problem ∧
        problem.message label = before ++ label ++ after) ∨
      (e = .crash .keysNotOrdered ∧ ∃ entries, Yaml.load text = .ok (.map entries) ∧
        ¬ Data.HaveOrder (unknownKeys entries))) ∧
    (∀ entries, Yaml.load text = .ok (.map entries) → unknownKeys entries ≠ [] →
      (Data.HaveOrder (unknownKeys entries) ∧ ∃ sorted, sorted.Perm (unknownKeys entries) ∧
        parse text label = .error (.invalid label (.unknownFields sorted))) ∨
      (¬ Data.HaveOrder (unknownKeys entries) ∧
        parse text label = .error (.crash .keysNotOrdered))) := by
  have hof {d : Data} (hload : Yaml.load text = .ok d) :
      ∀ entries, d = .map entries → ∀ entry ∈ entries, Data.IsModerateEntry entry := by
    rintro entries rfl
    exact hmoderate entries hload
  have hok (c : WriterConfig) :
      parse text label = .ok c ↔
        (Yaml.load text = .ok .null ∧ c = {}) ∨
          ∃ entries, Yaml.load text = .ok (.map entries) ∧ unknownKeys entries = [] ∧
            c.IsReadFrom entries := by
    rw [parse_eq_ok_iff]
    constructor
    · rintro ⟨d, hload, hread⟩
      rcases (ofData_eq_ok_iff (hof hload)).1 hread with ⟨rfl, rfl⟩ | ⟨entries, rfl, hknown, hread⟩
      · exact .inl ⟨hload, rfl⟩
      · exact .inr ⟨entries, hload, hknown, hread⟩
    · rintro (⟨hload, rfl⟩ | ⟨entries, hload, hknown, hread⟩)
      · exact ⟨.null, hload, rfl⟩
      · exact ⟨_, hload, (ofData_eq_ok_iff (hof hload)).2 (.inr ⟨entries, rfl, hknown, hread⟩)⟩
  refine ⟨hok, ?_, ?_, ?_⟩
  · intro c hc
    rcases (hok c).1 hc with ⟨-, rfl⟩ | ⟨entries, -, -, hread⟩
    · exact standard_isIndentation
    · exact hread.isIndentation
  · intro e he
    -- Every problem of a configuration is shown under its label.
    have hinvalid (problem : ConfigProblem) : ∃ problem' before after,
        ConfigError.invalid label problem = .invalid label problem' ∧
          problem'.message label = before ++ label ++ after := by
      obtain ⟨before, after, hmessage⟩ := problem.exists_message_eq label
      exact ⟨problem, before, after, rfl, hmessage⟩
    -- The text is no data, or what it holds is refused.
    rcases parse_eq_error hvalues he with rfl | ⟨d, hload, hrefused⟩
    · exact .inl (hinvalid .malformed)
    · rcases ofData_eq_error (hof hload) hrefused with ⟨problem, rfl⟩ | ⟨rfl, entries, rfl, hnone⟩
      · exact .inl (hinvalid problem)
      · exact .inr ⟨rfl, entries, hload, hnone⟩
  · intro entries hload hunknown
    rw [parse_of_load hload]
    exact ofData_of_unknown label (hmoderate entries hload) hunknown

/-! ## Keys without an order -/

/-- The entries of a mapping. -/
def entries? : Data → Option (List (Data × Data))
  | .map entries => some entries
  | .null | .bool _ | .int _ | .float _ | .text _ | .bytes _ | .date _ | .moment _ | .list _
  | .tuple _ | .set _ => none

theorem entries?_eq_some_iff {d : Data} : entries? d = some entries ↔ d = .map entries := by
  cases d <;> simp [entries?]

/-- Two unknown keys of different kinds: a number and a text. -/
def mixedKeys : String :=
  "1: a\nx: b\n"

/-- What is loaded is a mapping with unknown keys that have no order, and without whole numbers but
one. -/
def breaksOff (loaded : Except Yaml.Fault Data) : Bool :=
  (loaded.toOption.bind entries?).any fun entries =>
    (entries.all fun entry =>
      entry.1.wholeNumber?.all (· == 1) && entry.2.wholeNumber?.all (· == 1)) &&
    (Data.sortKeys? (unknownKeys entries)).isNone

theorem exists_of_breaksOff {loaded : Except Yaml.Fault Data} (h : breaksOff loaded = true) :
    ∃ entries, loaded = .ok (.map entries) ∧ (∀ entry ∈ entries, Data.IsModerateEntry entry) ∧
      ¬ Data.HaveOrder (unknownKeys entries) := by
  -- What is loaded stays closed: only the check on it is evaluated, and read as a statement here.
  have hone : IsModerate 1 := ⟨by decide +kernel, rfl⟩
  obtain ⟨entries, hentries, hchecked⟩ := (Option.any_eq_true _ _).1 h
  obtain ⟨d, hloaded, hd⟩ := Option.bind_eq_some_iff.1 hentries
  rw [entries?_eq_some_iff] at hd
  subst hd
  rw [Bool.and_eq_true, List.all_eq_true, Option.isNone_iff_eq_none] at hchecked
  obtain ⟨hnumbers, hunsorted⟩ := hchecked
  refine ⟨entries, ?_, ?_, ?_⟩
  · cases loaded with
    | ok d =>
      rw [Except.toOption, Option.some.injEq] at hloaded
      rw [hloaded]
    | error fault => cases hloaded
  · intro entry hentry i hi
    have hboth := hnumbers entry hentry
    rw [Bool.and_eq_true] at hboth
    -- The one whole number in the entries is 1.
    have hsame : i = 1 := by
      rcases hi with hkey | hvalue
      · simpa [hkey, Data.wholeNumber?] using hboth.1
      · simpa [hvalue, Data.wholeNumber?] using hboth.2
    exact hsame ▸ hone
  · rcases Data.sortKeys?_cases (unknownKeys entries) with ⟨-, sorted, hsorted, -⟩ | ⟨hnone, -⟩
    · rw [hsorted] at hunsorted
      cases hunsorted
    · exact hnone

/-- The text is loaded as such a mapping. -/
theorem load_mixedKeys :
    ∃ entries, Yaml.load mixedKeys = .ok (.map entries) ∧
      (∀ entry ∈ entries, Data.IsModerateEntry entry) ∧
      ¬ Data.HaveOrder (unknownKeys entries) :=
  exists_of_breaksOff (by decide +kernel)

theorem mixedKeys_haveValues (fault : Yaml.ValueFault) :
    Yaml.load mixedKeys ≠ .error (.value fault) := by
  obtain ⟨_, hload, -⟩ := load_mixedKeys
  rw [hload]
  exact fun h => nomatch h

theorem mixedKeys_areModerate (h : Yaml.load mixedKeys = .ok (.map entries)) :
    ∀ entry ∈ entries, Data.IsModerateEntry entry := by
  obtain ⟨_, hload, hmoderate, -⟩ := load_mixedKeys
  rw [hload] at h
  cases h
  exact hmoderate

/-- Keys without an order are not all known. -/
theorem unknownKeys_ne_nil (h : ¬ Data.HaveOrder (unknownKeys entries)) :
    unknownKeys entries ≠ [] := by
  intro hnil
  rw [hnil] at h
  exact h (.inl (Nat.zero_le 1))

/-- The keys have no order, so the reading breaks off. -/
theorem reading_of_mixedKeys :
    ∃ entries, Yaml.load mixedKeys = .ok (.map entries) ∧
      ¬ Data.HaveOrder (unknownKeys entries) ∧
      parse mixedKeys "<string>" = .error (.crash .keysNotOrdered) := by
  obtain ⟨entries, hload, -, hnone⟩ := load_mixedKeys
  obtain ⟨-, -, -, hlisted⟩ := reading_contained mixedKeys "<string>" mixedKeys_haveValues
    fun entries => mixedKeys_areModerate
  rcases hlisted entries hload (unknownKeys_ne_nil hnone) with ⟨horder, -⟩ | ⟨-, hcrash⟩
  · exact absurd horder hnone
  · exact ⟨entries, hload, hnone, hcrash⟩

/-- Not every text with values of moderate size is read or refused under its label. -/
theorem reading_not_contained :
    ¬ ∀ text label,
      (∀ fault, Yaml.load text ≠ .error (.value fault)) →
      (∀ entries, Yaml.load text = .ok (.map entries) →
        ∀ entry ∈ entries, Data.IsModerateEntry entry) →
      ∀ e, parse text label = .error e → ∃ problem, e = .invalid label problem := by
  intro h
  obtain ⟨entries, hload, hmoderate, hnone⟩ := load_mixedKeys
  have hrefused : parse mixedKeys "<string>" = .error (.crash .keysNotOrdered) := by
    rw [parse_of_load hload]
    rcases ofData_of_unknown "<string>" hmoderate (unknownKeys_ne_nil hnone) with
      ⟨horder, -⟩ | ⟨-, hcrash⟩
    · exact absurd horder hnone
    · exact hcrash
  obtain ⟨problem, hproblem⟩ := h mixedKeys "<string>" mixedKeys_haveValues
    (fun entries => mixedKeys_areModerate) _ hrefused
  cases hproblem

end WriterConfig

end SwiftDecl
