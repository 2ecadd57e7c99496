import Mathlib.Data.List.FinRange
import Mathlib.Data.List.Nodup
import Mathlib.Data.List.TakeWhile
import SwiftDecl.Proofs.Code.Building
import SwiftDecl.Proofs.Template.Scanning
import SwiftDecl.Proofs.Template.Taking

/-!
# Three ways to say which argument a slot takes

A slot takes its argument in order, by its position or by its name. `Piece` is a piece of a template
that leaves this open, and `template` spells pieces for one of the ways. The characters between a
percent sign and the letter of its slot are read back as they are spelled (`tokens_template`,
`namedTokens_template`), and so the three ways give the same block (`addressed_alike`).
-/

namespace SwiftDecl.Template

/-! ## Pieces -/

/-- A piece of a template for a number of arguments. A slot refers to one of them. -/
inductive Piece (count : Nat) where
  | text (chars : List Char)
  | directive (d : Directive)
  | slot (s : Slot) (argument : Fin count)

variable {count : Nat}

/-- The part that a piece becomes. -/
def Piece.part : Piece count → Part
  | text chars => .text (String.ofList chars)
  | directive d => .directive d
  | slot s _ => .slot s

/-- The positions of the arguments that slots refer to, from zero. -/
def references : List (Piece count) → List Nat
  | [] => []
  | .text _ :: ps => references ps
  | .directive _ :: ps => references ps
  | .slot _ argument :: ps => argument :: references ps

/-- The texts among the pieces are not empty, have no percent signs and do not touch. -/
inductive Proper : List (Piece count) → Prop where
  | nil : Proper []
  | text {chars : List Char} {ps : List (Piece count)} :
      chars ≠ [] → '%' ∉ chars → (∀ front rest, ps ≠ .text front :: rest) → Proper ps →
        Proper (.text chars :: ps)
  | directive {d : Directive} {ps : List (Piece count)} : Proper ps → Proper (.directive d :: ps)
  | slot {s : Slot} {argument : Fin count} {ps : List (Piece count)} :
      Proper ps → Proper (.slot s argument :: ps)

/-- The characters of pieces whose slots say by an address which argument they take. -/
def spelled (address : Fin count → List Char) : List (Piece count) → List Char
  | [] => []
  | .text chars :: ps => chars ++ spelled address ps
  | .directive d :: ps => '%' :: d.letter :: spelled address ps
  | .slot s argument :: ps => '%' :: (address argument ++ s.letter :: spelled address ps)

/-- The template of pieces. -/
def template (address : Fin count → List Char) (pieces : List (Piece count)) : String :=
  String.ofList (spelled address pieces)

/-- No address: each slot takes the next argument. -/
def inOrder : Fin count → List Char :=
  fun _ => []

/-- The digits of a position, counted from one. -/
def byPosition : Fin count → List Char :=
  fun argument => Nat.toDigits 10 (argument + 1)

/-- A name and a colon. -/
def byName (names : Fin count → String) : Fin count → List Char :=
  fun argument => (names argument).toList ++ [':']

/-! ## Positions as digits -/

/-- The characters from zero to nine. -/
theorem toNat_of_isDigit {c : Char} (h : c.isDigit = true) : 48 ≤ c.toNat ∧ c.toNat ≤ 57 := by
  simp only [Char.isDigit, Bool.and_eq_true, decide_eq_true_eq, ge_iff_le,
    UInt32.le_iff_toNat_le] at h
  exact h

theorem val_lt_of_isDigit {c : Char} (h : c.isDigit = true) : c.val < 128 := by
  have hrange := toNat_of_isDigit h
  rw [UInt32.lt_iff_toNat_lt]
  exact Nat.lt_of_le_of_lt hrange.2 (by decide)

/-- A digit is a digit for templates. -/
theorem isDigit_of_isDigit {c : Char} (h : c.isDigit = true) : Text.isDigit c = true := by
  rw [Text.isDigit, if_pos (val_lt_of_isDigit h)]
  exact h

/-- A digit is no blank around a numeral. -/
theorem isPadding_of_isDigit {c : Char} (h : c.isDigit = true) : Text.isPadding c = false := by
  have hrange := toNat_of_isDigit h
  have hspace : c ≠ ' ' := by
    rintro rfl
    simp at hrange
  have hcontrol : ¬ c ≤ '\r' := by
    intro hle
    have hsmall : c.toNat ≤ 13 := hle
    omega
  simp [Text.isPadding, hspace, hcontrol]

/-- The value of a digit. -/
theorem digitValue_of_isDigit {c : Char} (h : c.isDigit = true) :
    Text.digitValue? 10 c = some (c.toNat - '0'.toNat) := by
  have hrange := toNat_of_isDigit h
  have hsmall : c.toNat - 48 < 10 := by omega
  simp [Text.digitValue?, Text.hexValue?, h, Option.filter, hsmall]

/-- Digits without a sign or blanks spell their number. -/
theorem numeral_digits {cs : List Char} (hne : cs ≠ []) (hdigits : ∀ c ∈ cs, c.isDigit = true)
    (hshort : cs.length ≤ Text.digitLimit) :
    Text.numeral 10 cs = .ok (Nat.ofDigitChars 10 cs 0) := by
  -- Digits are not changed before they are read, and none of them is a blank to be taken off.
  have hplain : cs.map Text.plainChar = cs := by
    refine (List.map_congr_left fun c hc => ?_).trans (List.map_id cs)
    rw [Text.plainChar, if_pos (val_lt_of_isDigit (hdigits c hc)), id]
  have hstart : cs.dropWhile Text.isPadding = cs := by
    cases cs with
    | nil => rfl
    | cons c cs => simp [isPadding_of_isDigit (hdigits c List.mem_cons_self)]
  have hsign : Text.splitSign cs = (1, cs) := by
    -- The signs are no digits.
    unfold Text.splitSign
    split
    · cases hdigits '-' List.mem_cons_self
    · cases hdigits '+' List.mem_cons_self
    · rfl
  have hmark : Text.dropBaseMark 10 cs = cs := by
    -- Base ten has no mark.
    unfold Text.dropBaseMark
    split <;> simp
  have hvalues : ∀ c ∈ cs, (Text.digitValue? 10 c).isSome = true := by
    intro c hc
    rw [digitValue_of_isDigit (hdigits c hc)]
    rfl
  -- All characters are digits of base ten, so all are taken.
  have htaken := List.takeWhile_eq_self_iff.2 hvalues
  have hdropped := List.dropWhile_eq_nil_iff.2 hvalues
  have hnumber : cs.foldl (fun n c => n * 10 + (Text.digitValue? 10 c).getD 0) 0 =
      Nat.ofDigitChars 10 cs 0 := by
    rw [Nat.ofDigitChars_eq_foldl]
    refine List.foldl_ext _ _ _ fun n c hc => ?_
    rw [digitValue_of_isDigit (hdigits c hc), Option.getD_some, Nat.mul_comm]
  unfold Text.numeral
  simp only [hplain, hstart, hsign, hmark, htaken, hdropped, hnumber]
  simp [Nat.not_lt.2 hshort, hne]

theorem byPosition_ne_nil {argument : Fin count} : byPosition argument ≠ [] :=
  Nat.toDigits_ne_nil

theorem isDigit_of_mem_byPosition {argument : Fin count} {c : Char} (h : c ∈ byPosition argument) :
    c.isDigit = true :=
  Nat.isDigit_of_mem_toDigits (by decide) (by decide) h

/-- A position among few arguments has few digits. -/
theorem length_byPosition_le {argument : Fin count} {limit : Nat} (hpositive : 0 < limit)
    (h : count < Nat.pow 10 limit) : (byPosition argument).length ≤ limit :=
  (Nat.length_toDigits_le_iff (by decide) hpositive).2 (Nat.lt_of_le_of_lt argument.isLt h)

/-- The digits of a position name it. -/
theorem numeral_byPosition (argument : Fin count) (h : Text.isWritable count = true) :
    Text.numeral 10 (byPosition argument) = .ok (argument + 1 : Nat) := by
  have hpositive : 0 < Text.digitLimit := by decide
  have hshort : (byPosition argument).length ≤ Text.digitLimit := by
    rw [Text.isWritable, decide_eq_true_eq, Int.natAbs_natCast] at h
    exact length_byPosition_le hpositive h
  have hnumber : Nat.ofDigitChars 10 (byPosition argument) 0 = argument + 1 :=
    Nat.ofDigitChars_toDigits (by decide) (by decide)
  rw [numeral_digits byPosition_ne_nil (fun _ => isDigit_of_mem_byPosition) hshort, hnumber]

/-! ## Reading spelled pieces -/

/-- The token of a piece, with the letter of its slot and the address of its argument. -/
def Piece.token {letter fault : Type} (letterOf : Slot → letter)
    (address : Fin count → List Char) : Piece count → TokenOf letter fault
  | text chars => .text chars
  | directive d => .directive d
  | slot s argument => .slot (letterOf s) (address argument)

/-- The tokens of pieces start with a text only if the pieces do. -/
theorem map_token_ne_text {letter fault : Type} {letterOf : Slot → letter}
    {address : Fin count → List Char} {ps : List (Piece count)}
    (h : ∀ front rest, ps ≠ .text front :: rest) (front : List Char)
    (ts : List (TokenOf letter fault)) :
    ps.map (Piece.token letterOf address) ≠ .text front :: ts := by
  intro hsame
  obtain ⟨p, rest, rfl, hp, -⟩ := List.map_eq_cons_iff.1 hsame
  cases p with
  | text front' => exact h front' rest rfl
  | _ => cases hp

/-- The digits of a placeholder are kept. -/
theorem scan_digits {digits : List Char} (h : ∀ c ∈ digits, Text.isDigit c = true)
    (seen cs : List Char) :
    Token.scan (some seen) (digits ++ cs) = Token.scan (some (digits.reverse ++ seen)) cs := by
  induction digits generalizing seen with
  | nil => rfl
  | cons c digits ih =>
    rw [List.cons_append, Token.scan, if_pos (h c List.mem_cons_self),
      ih fun c' hc' => h c' (List.mem_cons_of_mem c hc'), List.reverse_cons, List.append_assoc,
      List.singleton_append]

/-- A slot is read with the digits before its letter. -/
theorem scan_slot {digits : List Char} (h : ∀ c ∈ digits, Text.isDigit c = true) (s : Slot)
    (cs : List Char) :
    Token.scan none ('%' :: (digits ++ s.letter :: cs)) = .slot s digits :: Token.scan none cs := by
  have hletter (seen : List Char) :
      Token.scan (some seen) (s.letter :: cs) = .slot s seen.reverse :: Token.scan none cs := by
    cases s <;> rfl
  rw [Token.scan, if_pos rfl, scan_digits h, List.append_nil, hletter, List.reverse_reverse]

/-- Spelled pieces are read back if the addresses are digits. -/
theorem tokens_template {address : Fin count → List Char} {pieces : List (Piece count)}
    (hdigits : ∀ argument, ∀ c ∈ address argument, Text.isDigit c = true) (h : Proper pieces) :
    tokens (template address pieces) = pieces.map (Piece.token id address) := by
  rw [tokens, template, String.toList_ofList]
  induction h with
  | nil => rfl
  | @text chars ps hne hpercent halone _ ih =>
    have hrest : ∀ front ts, Token.scan none (spelled address ps) ≠ .text front :: ts := by
      rw [ih]
      exact map_token_ne_text halone
    rw [spelled, scan_text hne hpercent hrest, ih]
    rfl
  | @directive d _ _ ih =>
    rw [spelled, scan_directive, ih]
    rfl
  | @slot s argument _ _ ih =>
    rw [spelled, scan_slot (hdigits argument), ih]
    rfl

/-! ## Reading spelled names -/

/-- Text is read up to the next placeholder. -/
theorem namedScan_text {chars cs : List Char} (position : Nat) (hne : chars ≠ [])
    (hpercent : '%' ∉ chars)
    (hrest : ∀ later front ts, NamedToken.scan .outside later cs ≠ .text front :: ts) :
    ∃ later, NamedToken.scan .outside position (chars ++ cs) =
      .text chars :: NamedToken.scan .outside later cs := by
  induction chars generalizing position with
  | nil => exact absurd rfl hne
  | cons c chars ih =>
    have hc : c ≠ '%' := fun h => hpercent (h ▸ List.mem_cons_self)
    rw [List.cons_append, NamedToken.scan, if_neg hc]
    cases chars with
    | nil =>
      -- No text follows, so the text ends with this character.
      exact ⟨position + 1, glue_of_no_text (hrest (position + 1))⟩
    | cons c' chars =>
      obtain ⟨later, hlater⟩ := ih (position + 1) (List.cons_ne_nil _ _)
        fun h => hpercent (List.mem_cons_of_mem c h)
      rw [hlater]
      exact ⟨later, rfl⟩

/-- A directive is read as it is spelled. -/
theorem namedScan_directive (d : Directive) (position : Nat) (cs : List Char) :
    NamedToken.scan .outside position ('%' :: d.letter :: cs) =
      .directive d :: NamedToken.scan .outside (position + 2) cs := by
  cases d <;> rfl

/-- The characters of a name are kept. -/
theorem namedScan_name {name : List Char} (h : ∀ c ∈ name, isNameChar c = true) (first : Char)
    (start position : Nat) (seen cs : List Char) :
    ∃ later, NamedToken.scan (.name first start seen) position (name ++ cs) =
      NamedToken.scan (.name first start (name.reverse ++ seen)) later cs := by
  induction name generalizing seen position with
  | nil => exact ⟨position, rfl⟩
  | cons c name ih =>
    obtain ⟨later, hlater⟩ := ih (fun c' hc' => h c' (List.mem_cons_of_mem c hc')) (position + 1)
      (c :: seen)
    rw [List.cons_append, NamedToken.scan, if_pos (h c List.mem_cons_self), hlater,
      List.reverse_cons, List.append_assoc, List.singleton_append]
    exact ⟨later, rfl⟩

/-- A slot is read with the name before its letter. -/
theorem namedScan_slot {name : String} (h : isArgumentName name = true) (s : Slot) (position : Nat)
    (cs : List Char) :
    ∃ later, NamedToken.scan .outside position ('%' :: (name.toList ++ [':'] ++ s.letter :: cs)) =
      .slot s.letter name.toList :: NamedToken.scan .outside later cs := by
  unfold isArgumentName at h
  generalize name.toList = chars at h
  cases chars with
  | nil => cases h
  | cons first rest =>
    obtain ⟨hfirst, hrest⟩ := Bool.and_eq_true_iff.1 h
    obtain ⟨later, hlater⟩ := namedScan_name (List.all_eq_true.1 hrest) first (position + 1)
      (position + 1 + 1) [] (':' :: s.letter :: cs)
    -- After the colon one letter ends the slot.
    have hletter (seen : List Char) :
        NamedToken.scan (.colon first (position + 1) seen) (later + 1) (s.letter :: cs) =
          .slot s.letter (first :: seen.reverse) ::
            NamedToken.scan .outside (later + 1 + 1) cs := by
      cases s <;> rfl
    -- The colon ends the name, since it is no character of names.
    have hcolon : isNameChar ':' = false := by decide
    refine ⟨later + 1 + 1, ?_⟩
    rw [NamedToken.scan, if_pos rfl, List.append_assoc, List.cons_append, NamedToken.scan,
      if_pos hfirst, List.singleton_append, hlater, NamedToken.scan, hcolon, if_neg (by simp),
      if_pos rfl, hletter, List.append_nil, List.reverse_reverse]

/-- Spelled pieces are read back if their slots name arguments. -/
theorem namedTokens_template {names : Fin count → String} {pieces : List (Piece count)}
    (hnames : ∀ argument, isArgumentName (names argument) = true) (h : Proper pieces) :
    namedTokens (template (byName names) pieces) =
      pieces.map (Piece.token Slot.letter fun argument => (names argument).toList) := by
  rw [namedTokens, template, String.toList_ofList]
  generalize 0 = position
  induction h generalizing position with
  | nil => rfl
  | @text chars ps hne hpercent halone _ ih =>
    -- A text is followed by no other text, so it is read as one piece.
    have hrest : ∀ later front ts,
        NamedToken.scan .outside later (spelled (byName names) ps) ≠ .text front :: ts := by
      intro later
      rw [ih]
      exact map_token_ne_text halone
    obtain ⟨later, hlater⟩ := namedScan_text position hne hpercent hrest
    rw [spelled, hlater, ih]
    rfl
  | @directive d _ _ ih =>
    rw [spelled, namedScan_directive, ih]
    rfl
  | @slot s argument ps _ ih =>
    obtain ⟨later, hlater⟩ := namedScan_slot (hnames argument) s position
      (spelled (byName names) ps)
    rw [spelled, byName, hlater, ih]
    rfl

/-! ## Filling the slots -/

section Fill

variable {arguments : List Argument} {pieces : List (Piece arguments.length)}
  {kept : List Argument}

/-- Arguments that fit their slots fill them. -/
theorem exists_fills
    (h : ∀ s i, .slot s i ∈ pieces → ∃ converted, s.convert arguments[i] = .ok converted) :
    ∃ kept, Fills arguments (pieces.map Piece.part) kept (references pieces) := by
  induction pieces with
  | nil => exact ⟨[], .nil⟩
  | cons p ps ih =>
    obtain ⟨kept, hkept⟩ := ih fun s i hi => h s i (List.mem_cons_of_mem p hi)
    cases p with
    | text chars => exact ⟨kept, .text _ hkept⟩
    | directive d => exact ⟨kept, .directive d hkept⟩
    | slot s i =>
      obtain ⟨converted, hconverted⟩ := h s i List.mem_cons_self
      exact ⟨converted :: kept, .slot (List.getElem?_eq_getElem i.isLt) hconverted hkept⟩

/-- A filled slot for an argument holds what it keeps of it. -/
theorem Fills.slot_inv {s : Slot} {i : Fin arguments.length} {parts : List Part}
    {positions : List Nat} (h : Fills arguments (.slot s :: parts) kept (↑i :: positions)) :
    ∃ converted rest, kept = converted :: rest ∧ s.convert arguments[i] = .ok converted ∧
      Fills arguments parts rest positions := by
  cases h with
  | slot hget hconverted hrest =>
    rw [← Option.some.inj ((List.getElem?_eq_getElem i.isLt).symm.trans hget)] at hconverted
    exact ⟨_, _, rfl, hconverted, hrest⟩

/-- Slots that can take the arguments that they refer to fill. The way relates what has been taken
to the positions that are left. -/
theorem fillTokens_pieces {format : String} {address : Fin arguments.length → List Char}
    {way : Taken → List Nat → Prop} {taken : Taken}
    (hstep : ∀ {taken positions} (s : Slot) (i : Fin arguments.length),
      way taken (i :: positions) →
        ∃ next, taken.next format arguments.length s (address i) = .ok (↑i, next) ∧
          way next positions)
    (hway : way taken (references pieces))
    (hfills : Fills arguments (pieces.map Piece.part) kept (references pieces)) :
    ∃ taken', fillTokens format arguments taken (pieces.map (Piece.token id address)) =
        .ok ({ parts := pieces.map Piece.part, arguments := kept }, taken') ∧
      ∀ i, taken'.Has i ↔ taken.Has i ∨ i ∈ references pieces := by
  induction pieces generalizing taken kept with
  | nil =>
    cases hfills
    exact ⟨taken, rfl, fun i => by simp [references]⟩
  | cons p ps ih =>
    cases p with
    | text chars =>
      cases hfills with
      | text _ hrest =>
        obtain ⟨taken', hfilled, htaken⟩ := ih hway hrest
        exact ⟨taken', fillTokens_text_iff.2 ⟨_, hfilled, rfl⟩, htaken⟩
    | directive d =>
      cases hfills with
      | directive _ hrest =>
        obtain ⟨taken', hfilled, htaken⟩ := ih hway hrest
        exact ⟨taken', fillTokens_directive_iff.2 ⟨_, hfilled, rfl⟩, htaken⟩
    | slot s i =>
      obtain ⟨converted, rest, rfl, hconverted, hrest⟩ := hfills.slot_inv
      -- The argument of the slot is taken, and the way goes on.
      obtain ⟨next, hnext, hnextWay⟩ := hstep s i hway
      obtain ⟨taken', hfilled, htaken⟩ := ih hnextWay hrest
      have hargument : arguments.getD i .null = arguments[i] := by simp
      rw [← hargument] at hconverted
      refine ⟨taken', ?_, fun j => ?_⟩
      · exact fillTokens_slot_iff.2 ⟨i, next, converted, _, hnext, hconverted, hfilled, rfl⟩
      · rw [htaken, Taken.has_next_iff hnext, references, List.mem_cons, or_assoc]

/-- A template whose slots refer to all arguments, and can take them, fills. -/
theorem instantiate_template {address : Fin arguments.length → List Char}
    {way : Taken → List Nat → Prop}
    (hdigits : ∀ argument, ∀ c ∈ address argument, Text.isDigit c = true) (hproper : Proper pieces)
    (hstep : ∀ {taken positions} (s : Slot) (i : Fin arguments.length),
      way taken (i :: positions) →
        ∃ next, taken.next (template address pieces) arguments.length s (address i) =
            .ok (↑i, next) ∧
          way next positions)
    (hway : way {} (references pieces)) (hall : ∀ i < arguments.length, i ∈ references pieces)
    (hfills : Fills arguments (pieces.map Piece.part) kept (references pieces)) :
    instantiate (template address pieces) arguments =
      .ok { parts := pieces.map Piece.part, arguments := kept } := by
  obtain ⟨taken, hfilled, htaken⟩ := fillTokens_pieces hstep hway hfills
  obtain ⟨-, honeWay, -⟩ := fillTokens_fills (.inl rfl) hfilled
  have hchecked : taken.check (template address pieces) arguments.length = .ok () :=
    (Taken.check_eq_ok_iff honeWay).2 (.inl fun i hi => (htaken i).2 (.inr (hall i hi)))
  rw [instantiate, tokens_template hdigits hproper, hfilled]
  simp only [bind, Except.bind, hchecked, pure, Except.pure]

/-- All arguments so far have been taken by their positions. -/
def Taken.AllByPosition (taken : Taken) (_ : List Nat) : Prop :=
  taken.inOrder = 0

/-- All arguments so far have been taken in order, and those that are left go on from there. -/
def Taken.AllInOrder (taken : Taken) (positions : List Nat) : Prop :=
  taken.byPosition = [] ∧ ∃ left, positions = List.range' taken.inOrder left

/-- A slot that names a position takes the argument there. -/
theorem next_byPosition {format : String} {taken : Taken} {positions : List Nat} (s : Slot)
    (i : Fin count) (hlimit : Text.isWritable count = true)
    (hway : taken.AllByPosition (↑i :: positions)) :
    ∃ next, taken.next format count s (byPosition i) = .ok (↑i, next) ∧
      next.AllByPosition positions := by
  refine ⟨{ taken with byPosition := ↑i :: taken.byPosition }, ?_, hway⟩
  have hdigits : (byPosition i).isEmpty = false := by
    simp [byPosition_ne_nil]
  have hrange : ¬ ((i : Nat) + 1 = 0 ∨ count < i + 1) := by omega
  have hnone : taken.inOrder = 0 := hway
  simp only [Taken.next, hdigits, Bool.false_eq_true, if_false, numeral_byPosition i hlimit,
    Int.toNat_natCast, hrange, hnone, if_true, Nat.add_sub_cancel]

/-- A slot without digits takes the next argument. -/
theorem next_inOrder {format : String} {taken : Taken} {positions : List Nat} (s : Slot)
    (i : Fin count) (hway : taken.AllInOrder (↑i :: positions)) :
    ∃ next, taken.next format count s (inOrder i) = .ok (↑i, next) ∧ next.AllInOrder positions := by
  obtain ⟨hnone, left, hpositions⟩ := hway
  -- The positions that are left start with the next one, which is this argument.
  cases left with
  | zero => cases hpositions
  | succ left =>
    rw [List.range'_succ] at hpositions
    obtain ⟨hnext, hrest⟩ := List.cons.inj hpositions
    have hrange : ¬ count ≤ taken.inOrder := by omega
    refine ⟨{ taken with inOrder := taken.inOrder + 1 }, ?_, hnone, left, hrest⟩
    simp [Taken.next, inOrder, hrange, hnone, hnext]

/-- Each name stands for one argument. -/
theorem lookup_eq_some {entries : List (String × Argument)} {name : String} {a : Argument}
    (hdistinct : (entries.map Prod.fst).Nodup) (h : (name, a) ∈ entries) :
    lookup entries name = some a := by
  obtain ⟨entry, hfound⟩ : ∃ entry, (entries.reverse.find? fun e => e.1 == name) = some entry := by
    refine Option.isSome_iff_exists.1 (List.find?_isSome.2 ⟨(name, a), List.mem_reverse.2 h, ?_⟩)
    exact beq_self_eq_true name
  have hname : entry.1 = name := by simpa using List.find?_some hfound
  have hentry : entry ∈ entries := List.mem_reverse.1 (List.mem_of_find?_eq_some hfound)
  have hsame : entry = (name, a) := List.inj_on_of_nodup_map hdistinct hentry h hname
  rw [lookup, hfound, hsame]
  rfl

/-- Slots that name arguments which fit them fill. -/
theorem fillNamed_pieces {format : String} {names : Fin arguments.length → String}
    {entries : List (String × Argument)}
    (hentries : ∀ i : Fin arguments.length, lookup entries (names i) = some arguments[i])
    (hfills : Fills arguments (pieces.map Piece.part) kept (references pieces)) :
    fillNamed format entries
        (pieces.map (Piece.token Slot.letter fun argument => (names argument).toList)) =
      .ok { parts := pieces.map Piece.part, arguments := kept } := by
  induction pieces generalizing kept with
  | nil =>
    cases hfills
    rfl
  | cons p ps ih =>
    cases p with
    | text chars =>
      cases hfills with
      | text _ hrest => exact fillNamed_text_iff.2 ⟨_, ih hrest, rfl⟩
    | directive d =>
      cases hfills with
      | directive _ hrest => exact fillNamed_directive_iff.2 ⟨_, ih hrest, rfl⟩
    | slot s i =>
      obtain ⟨converted, rest, rfl, hconverted, hrest⟩ := hfills.slot_inv
      have hletter : Slot.ofLetter? s.letter = some s := by cases s <;> rfl
      -- The entry with the name of the slot has its argument.
      have hentry : lookup entries (String.ofList (names i).toList) = some arguments[i] := by
        rw [String.ofList_toList, hentries i]
      exact fillNamed_slot_iff.2
        ⟨arguments[i], s, converted, _, hentry, hletter, hconverted, ih hrest, rfl⟩

/-- A template whose slots name arguments that fit them fills, if each argument has a name of its
own. -/
theorem instantiateNamed_template {names : Fin arguments.length → String}
    {entries : List (String × Argument)} (hproper : Proper pieces)
    (hvalid : ∀ i, isArgumentName (names i) = true) (hdistinct : Function.Injective names)
    (hentries : entries.Perm (List.ofFn fun i => (names i, arguments[i])))
    (hfills : Fills arguments (pieces.map Piece.part) kept (references pieces)) :
    instantiateNamed (template (byName names) pieces) entries =
      .ok { parts := pieces.map Piece.part, arguments := kept } := by
  have hnames : (entries.map Prod.fst).Nodup := by
    rw [(hentries.map Prod.fst).nodup_iff, List.map_ofFn]
    exact List.nodup_ofFn.2 hdistinct
  have hlookup (i : Fin arguments.length) : lookup entries (names i) = some arguments[i] :=
    lookup_eq_some hnames (hentries.mem_iff.2 (List.mem_ofFn.2 ⟨i, rfl⟩))
  have hnone : (entries.find? fun entry => !isArgumentName entry.1) = none := by
    rw [List.find?_eq_none]
    intro entry hentry
    obtain ⟨i, rfl⟩ := List.mem_ofFn.1 (hentries.mem_iff.1 hentry)
    simp [hvalid i]
  rw [instantiateNamed, hnone, namedTokens_template hvalid hproper]
  exact fillNamed_pieces hlookup hfills

end Fill

/-! ## The three ways -/

/-- A template that refers to each of its arguments, each in a slot that it fits, means the same
with positions, with names and, if it takes the arguments one after the other, without any address:
it appends the same parts, and in its slots what they keep of the arguments that they refer to.
Positions need a number of arguments that can be written as a numeral. -/
theorem addressed_alike (c : Code) {arguments : List Argument}
    {pieces : List (Piece arguments.length)} {names : Fin arguments.length → String}
    {entries : List (String × Argument)} (hproper : Proper pieces)
    (hall : ∀ i < arguments.length, i ∈ references pieces)
    (hfit : ∀ s i, .slot s i ∈ pieces → ∃ converted, s.convert arguments[i] = .ok converted)
    (hvalid : ∀ i, isArgumentName (names i) = true) (hdistinct : Function.Injective names)
    (hentries : entries.Perm (List.ofFn fun i => (names i, arguments[i]))) :
    ∃ added, added.parts = pieces.map Piece.part ∧
      Fills arguments added.parts added.arguments (references pieces) ∧
      (Text.isWritable arguments.length = true →
        c.add (template byPosition pieces) arguments = .ok (c ++ added)) ∧
      c.addNamed (template (byName names) pieces) entries = .ok (c ++ added) ∧
      (references pieces = List.range arguments.length →
        c.add (template inOrder pieces) arguments = .ok (c ++ added)) := by
  obtain ⟨kept, hkept⟩ := exists_fills hfit
  refine ⟨{ parts := pieces.map Piece.part, arguments := kept }, rfl, hkept, fun hlimit => ?_, ?_,
    fun horder => ?_⟩
  · have hdigits : ∀ i : Fin arguments.length, ∀ ch ∈ byPosition i, Text.isDigit ch = true :=
      fun i ch hch => isDigit_of_isDigit (isDigit_of_mem_byPosition hch)
    have hfilled := instantiate_template hdigits hproper
      (fun s i => next_byPosition s i hlimit) rfl hall hkept
    exact Code.add_eq_ok_iff.2 ⟨_, hfilled, rfl⟩
  · have hfilled := instantiateNamed_template hproper hvalid hdistinct hentries hkept
    exact Code.addNamed_eq_ok_iff.2 ⟨_, hfilled, rfl⟩
  · have hdigits : ∀ i : Fin arguments.length, ∀ ch ∈ inOrder i, Text.isDigit ch = true :=
      fun i ch hch => absurd hch List.not_mem_nil
    have hstart : Taken.AllInOrder {} (references pieces) :=
      ⟨rfl, arguments.length, by rw [horder, List.range_eq_range']⟩
    have hfilled := instantiate_template hdigits hproper next_inOrder hstart hall hkept
    exact Code.add_eq_ok_iff.2 ⟨_, hfilled, rfl⟩

/-- Arguments that are taken in reverse order, one of them twice. -/
def reversedPieces : List (Piece 2) :=
  [.slot .literal 1, .text [',', ' '], .slot .string 0, .slot .name 1]

/-- A name for each of two arguments. -/
def sides : Fin 2 → String
  | 0 => "left"
  | 1 => "right"

/-- The arguments in reverse order, by their positions and by their names. -/
theorem reversedPieces_addressed_alike :
    ∃ added, added.parts = reversedPieces.map Piece.part ∧
      Fills [.text "a", .text "b"] added.parts added.arguments [1, 0, 1] ∧
      Code.add {} "%2L, %1S%2N" [.text "a", .text "b"] = .ok added ∧
      Code.addNamed {} "%right:L, %left:S%right:N" [("right", .text "b"), ("left", .text "a")] =
        .ok added := by
  have hproper : Proper reversedPieces :=
    .slot (.text (by simp) (by decide) (by simp) (.slot (.slot .nil)))
  have hall : ∀ i < 2, i ∈ references reversedPieces := by decide
  -- Both arguments are texts, which fit all slots here.
  have hfit : ∀ s i, .slot s i ∈ reversedPieces →
      ∃ converted, s.convert [Argument.text "a", Argument.text "b"][i] = .ok converted := by
    intro s i h
    simp only [reversedPieces, List.mem_cons, Piece.slot.injEq, List.not_mem_nil, or_false,
      reduceCtorEq, false_or] at h
    rcases h with ⟨rfl, rfl⟩ | ⟨rfl, rfl⟩ | ⟨rfl, rfl⟩ <;> exact ⟨_, rfl⟩
  have hdistinct : Function.Injective sides := by
    intro i j h
    revert i j
    decide
  obtain ⟨added, hparts, hfills, hposition, hname, -⟩ := @addressed_alike {}
    [.text "a", .text "b"] reversedPieces sides [("right", .text "b"), ("left", .text "a")] hproper
    hall hfit (by decide) hdistinct (List.Perm.swap _ _ _)
  have hlimit : Text.isWritable 2 = true := by decide +kernel
  rw [Code.empty_append] at hposition hname
  exact ⟨added, hparts, hfills, hposition hlimit, hname⟩

end SwiftDecl.Template
