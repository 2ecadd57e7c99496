import SwiftDecl.Modifier
import SwiftDecl.Text.Repeated
import SwiftDecl.Yaml.Value

/-!
# Writer configuration

A configuration says how declarations are written: the text of one level of indentation, the
modifiers that need not be written, and whether plain getters are written concisely. It is read
from a mapping, which holds no other keys than these three. What is not given keeps its standard
setting.
-/

namespace SwiftDecl

/-- How declarations are written. -/
structure WriterConfig where
  indent : String := "  "
  implied : ModifierSet := .internal
  conciseGetters : Bool := false
deriving DecidableEq

/-- Why data is no configuration. -/
inductive ConfigProblem where
  | malformed
  | notMapping
  | unknownFields (keys : List Data)
  | indentKind
  | indentNegative
  | indentText
  | modifiersKind
  | modifierKind (position : Nat)
  | modifier (position : Nat) (e : UnknownModifier)
  | conciseKind

/-- Why the reading of a configuration breaks off: a scalar of the document has no value, the
unknown keys have no order or no text, or the indentation is longer than any text. -/
inductive ConfigCrash where
  | value (fault : Yaml.ValueFault)
  | keysNotOrdered
  /-- A key is a number with too many digits to be shown. -/
  | keyNotWritable
  | indentTooWide (fault : Text.TooMany)

/-- Why a text gives no configuration. -/
inductive ConfigError where
  | invalid (label : String) (problem : ConfigProblem)
  | crash (c : ConfigCrash)

/-- The text of a problem of a configuration, which is known under a label. -/
def ConfigProblem.message (label : String) : ConfigProblem → String
  | malformed => "Invalid YAML in " ++ label
  | notMapping => label ++ ": writer config must be a YAML mapping"
  | unknownFields keys =>
    label ++ ": unknown field(s) " ++ ", ".intercalate (keys.map Data.shown)
  | indentKind => label ++ ": 'indent' must be a string or a number of spaces"
  | indentNegative => label ++ ": 'indent' must not be negative"
  | indentText => label ++ ": 'indent' may only contain spaces and tabs"
  | modifiersKind => label ++ ": 'implicit-modifiers' must be a list"
  | modifierKind position =>
    label ++ ": implicit-modifiers[" ++ toString position ++ "] must be a string"
  | modifier position e =>
    label ++ ": implicit-modifiers[" ++ toString position ++ "]: " ++ e.message
  | conciseKind => label ++ ": 'concise-getters' must be a boolean"

namespace Data

/-- The kinds of values that have an order among themselves. -/
inductive Scale where
  | text
  | bytes
  | number
  | day
  | moment (hasOffset : Bool)
deriving DecidableEq, Repr

/-- The kind of a value that has an order. -/
def scale? : Data → Option Scale
  | .text _ => some .text
  | .bytes _ => some .bytes
  | .bool _ | .int _ | .float _ => some .number
  | .date _ => some .day
  | .moment m => some (.moment m.offset.isSome)
  | _ => none

/-- The order of two values of one kind. -/
def le (a b : Data) : Bool :=
  match a, b with
  | .text s, .text t => s ≤ t
  | .bytes s, .bytes t => s ≤ t
  | .date d, .date e => d.ordinal ≤ e.ordinal
  | .moment m, .moment n => m.instant ≤ n.instant
  | .float x, .float y => !(y < x)
  | .float x, b => b.wholeNumber?.all fun j => compareFloat? j x != some .lt
  | a, .float y => a.wholeNumber?.all fun i => compareFloat? i y != some .gt
  | a, b =>
    match a.wholeNumber?, b.wholeNumber? with
    | some i, some j => i ≤ j
    | _, _ => true

/-- Keys in their order, if they have one. A single key needs none. -/
def sortKeys? : List Data → Option (List Data)
  | [] => some []
  | [key] => some [key]
  | key :: others =>
    if key.scale?.isSome && others.all fun other => other.scale? == key.scale? then
      some ((key :: others).mergeSort le)
    else none

end Data

namespace WriterConfig

/-- The keys of a configuration. -/
def keys : List String :=
  ["indent", "implicit-modifiers", "concise-getters"]

/-- The key is one of a configuration. -/
def isKnown : Data → Bool
  | .text key => keys.contains key
  | _ => false

/-- The indentation: a number of spaces, or a text of spaces and tabs. -/
def readIndent (label : String) : Data → Except ConfigError String
  | .int i =>
    if i < 0 then .error (.invalid label .indentNegative)
    else
      match Text.copiesFault? i " " with
      | some fault => .error (.crash (.indentTooWide fault))
      | none => .ok (Text.copies i " ")
  | .text s =>
    if s.toList.all fun c => c == ' ' || c == '\t' then .ok s
    else .error (.invalid label .indentText)
  | _ => .error (.invalid label .indentKind)

/-- The modifiers of a list of keywords, from a position on. -/
def readModifiersFrom (position : Nat) : List Data → Except ConfigProblem (List Modifier)
  | [] => .ok []
  | .text keyword :: rest => do
    let m ← (Modifier.ofKeyword keyword).mapError (.modifier position)
    return m :: (← readModifiersFrom (position + 1) rest)
  | _ :: _ => .error (.modifierKind position)

/-- The modifiers of a list of keywords. -/
def readModifiers : Data → Except ConfigProblem ModifierSet
  | .list items => do return ModifierSet.ofList (← readModifiersFrom 0 items)
  | _ => .error .modifiersKind

/-- A setting that is a truth value. -/
def readFlag : Data → Except ConfigProblem Bool
  | .bool b => .ok b
  | _ => .error .conciseKind

/-- A setting, if it is given. -/
def setting {α : Type} (entries : List (Data × Data)) (key : String) (standard : α)
    (read : Data → Except ConfigError α) : Except ConfigError α :=
  match Data.field? entries key with
  | some d => read d
  | none => .ok standard

/-- The configuration of the entries of a mapping, all of which are known. -/
def ofEntries (label : String) (entries : List (Data × Data)) :
    Except ConfigError WriterConfig := do
  let standard : WriterConfig := {}
  let indent ← setting entries "indent" standard.indent (readIndent label)
  let implied ← setting entries "implicit-modifiers" standard.implied fun d =>
    (readModifiers d).mapError (.invalid label)
  let conciseGetters ← setting entries "concise-getters" standard.conciseGetters fun d =>
    (readFlag d).mapError (.invalid label)
  return { indent, implied, conciseGetters }

/-- The configuration of a value that is known under a label. -/
def ofData (label : String) : Data → Except ConfigError WriterConfig
  | .null => .ok {}
  | .map entries =>
    match (entries.map (·.1)).filter fun key => !isKnown key with
    | [] => ofEntries label entries
    | unknown =>
      match Data.sortKeys? unknown with
      | some sorted =>
        if sorted.all Data.isWritable then .error (.invalid label (.unknownFields sorted))
        else .error (.crash .keyNotWritable)
      | none => .error (.crash .keysNotOrdered)
  | _ => .error (.invalid label .notMapping)

/-- The configuration of a text that is known under a label. -/
def parse (text : String) (label : String := "<string>") : Except ConfigError WriterConfig :=
  match Yaml.load text with
  | .ok d => ofData label d
  | .error (.value v) => .error (.crash (.value v))
  | .error (.malformed _) => .error (.invalid label .malformed)

end WriterConfig

end SwiftDecl
