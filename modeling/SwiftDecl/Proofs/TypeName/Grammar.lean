import SwiftDecl.TypeName.Token
import SwiftDecl.TypeName
import SwiftDecl.Text.Word

/-!
# The grammar of type names

A text is a type name if it can be cut into words and marks from which a type is derived. Only
the punctuation of the grammar counts as a mark, a word is as long as it can be, and white space
may stand around words and marks:

    type     := primary '?'*
    primary  := '[' type ']' | '[' type ':' type ']' | declared ('<' type (',' type)* '>')?
    declared := IDENT ('.' IDENT)*

The derivations are stated over what the cut leaves, without columns, and each carries the type
name that it builds: a rule for each shape of a type name.
-/

namespace SwiftDecl.TypeName

/-! ## Cutting a text -/

/-- A mark of the grammar. -/
def isPunctuation (c : Char) : Bool :=
  c ∈ ['[', ']', '<', '>', ',', ':', '.', '?']

/-- The text is cut into the lexemes, with white space around them dropped. -/
inductive Cut : List Char → List Lexeme → Prop where
  | nil : Cut [] []
  | blank {c cs ls} (hc : Text.isBlank c = true) (h : Cut cs ls) : Cut (c :: cs) ls
  | mark {c cs ls} (hc : isPunctuation c = true) (h : Cut cs ls) : Cut (c :: cs) (.mark c :: ls)
  | word {w cs ls} (hne : w ≠ []) (hw : ∀ c ∈ w, Text.isWordChar c = true)
      (hmax : ∀ c, cs.head? = some c → Text.isWordChar c = false) (h : Cut cs ls) :
      Cut (w ++ cs) (.word w :: ls)

/-! ## Deriving a type -/

/-- A word counts as an identifier if it does not start with a digit. -/
def IsIdentifier (w : List Char) : Prop :=
  ∀ c, w.head? = some c → Text.isDigit c = false

/-- A word is an identifier if the test for a digit in front fails. -/
theorem isIdentifier_iff {w : List Char} :
    IsIdentifier w ↔ w.head?.any Text.isDigit = false := by
  unfold IsIdentifier
  cases w with
  | nil => simp
  | cons c cs => simp

instance (w : List Char) : Decidable (IsIdentifier w) :=
  decidable_of_iff _ isIdentifier_iff.symm

/-- Names that follow dots: `('.' IDENT)*`. -/
inductive IsNested : List Lexeme → List String → Prop where
  | nil : IsNested [] []
  | dot {w ls names} (hw : IsIdentifier w) (h : IsNested ls names) :
      IsNested (.mark '.' :: .word w :: ls) (String.ofList w :: names)

/-- A dotted name: `IDENT ('.' IDENT)*`. It has no module. -/
inductive IsDeclared : List Lexeme → DeclaredName → Prop where
  | names {w ls names} (hw : IsIdentifier w) (h : IsNested ls names) :
      IsDeclared (.word w :: ls) { module := "", names := String.ofList w :: names }

mutual

/-- A type: `primary '?'*`. Each question mark is one more optional around the type. -/
inductive IsType : List Lexeme → TypeName → Prop where
  | primary {ls t} (h : IsPrimary ls t) : IsType ls t
  | optional {ls t} (h : IsType ls t) : IsType (ls ++ [.mark '?']) (.optional t)

/-- A type without question marks after it. -/
inductive IsPrimary : List Lexeme → TypeName → Prop where
  | array {ls t} (h : IsType ls t) : IsPrimary (.mark '[' :: (ls ++ [.mark ']'])) (.array t)
  | dictionary {ks vs k v} (hk : IsType ks k) (hv : IsType vs v) :
      IsPrimary (.mark '[' :: (ks ++ .mark ':' :: (vs ++ [.mark ']']))) (.dictionary k v)
  | declared {ns n} (h : IsDeclared ns n) : IsPrimary ns (.declared n)
  | parameterized {ns n ls ts} (hn : IsDeclared ns n) (hs : IsArguments ls ts) :
      IsPrimary (ns ++ .mark '<' :: (ls ++ [.mark '>'])) (.parameterized n ts)

/-- Generic arguments: `type (',' type)*`. -/
inductive IsArguments : List Lexeme → List TypeName → Prop where
  | one {ls t} (h : IsType ls t) : IsArguments ls [t]
  | more {ls ms t ts} (h : IsType ls t) (hs : IsArguments ms ts) :
      IsArguments (ls ++ .mark ',' :: ms) (t :: ts)

end

/-! ## What derivations have in common -/

/-- The marks among the lexemes are punctuation of the grammar. -/
def Punctuated (ls : List Lexeme) : Prop :=
  ∀ c, .mark c ∈ ls → isPunctuation c = true

/-- Nothing is punctuated. -/
theorem punctuated_nil : Punctuated [] := by
  intro c hc
  cases hc

/-- A word before punctuated lexemes. -/
theorem Punctuated.word {w : List Char} {ls : List Lexeme} (h : Punctuated ls) :
    Punctuated (.word w :: ls) := by
  intro c hc
  rcases List.mem_cons.1 hc with hw | hls
  · cases hw
  · exact h c hls

/-- A mark of the grammar before punctuated lexemes. -/
theorem Punctuated.mark {c : Char} {ls : List Lexeme} (h : Punctuated ls)
    (hc : isPunctuation c = true) : Punctuated (.mark c :: ls) := by
  intro d hd
  rcases List.mem_cons.1 hd with hmark | hls
  · cases hmark
    exact hc
  · exact h d hls

/-- Punctuated lexemes before punctuated lexemes. -/
theorem Punctuated.append {ls ms : List Lexeme} (h : Punctuated ls) (hm : Punctuated ms) :
    Punctuated (ls ++ ms) := by
  intro c hc
  rcases List.mem_append.1 hc with hls | hms
  · exact h c hls
  · exact hm c hms

/-- The names after dots are punctuated. -/
theorem IsNested.punctuated {ls : List Lexeme} {names : List String} (h : IsNested ls names) :
    Punctuated ls := by
  induction h with
  | nil => exact punctuated_nil
  | dot hw h ih => exact ih.word.mark rfl

/-- A dotted name is punctuated. -/
theorem IsDeclared.punctuated {ls : List Lexeme} {n : DeclaredName} (h : IsDeclared ls n) :
    Punctuated ls := by
  cases h with
  | names hw h => exact h.punctuated.word

mutual

/-- A type is punctuated. -/
theorem IsType.punctuated {ls : List Lexeme} {t : TypeName} : IsType ls t → Punctuated ls
  | .primary h => h.punctuated
  | .optional h => h.punctuated.append (punctuated_nil.mark rfl)

/-- A primary type is punctuated. -/
theorem IsPrimary.punctuated {ls : List Lexeme} {t : TypeName} : IsPrimary ls t → Punctuated ls
  | .array h => (h.punctuated.append (punctuated_nil.mark rfl)).mark rfl
  | .dictionary hk hv =>
    (hk.punctuated.append ((hv.punctuated.append (punctuated_nil.mark rfl)).mark rfl)).mark rfl
  | .declared h => h.punctuated
  | .parameterized hn hs =>
    hn.punctuated.append ((hs.punctuated.append (punctuated_nil.mark rfl)).mark rfl)

/-- Generic arguments are punctuated. -/
theorem IsArguments.punctuated {ls : List Lexeme} {ts : List TypeName} :
    IsArguments ls ts → Punctuated ls
  | .one h => h.punctuated
  | .more h hs => h.punctuated.append (hs.punctuated.mark rfl)

end

end SwiftDecl.TypeName
