import SwiftDecl.Data.Shown
import SwiftDecl.Text.Numeral
import SwiftDecl.Yaml.Token

/-!
# Faults of documents

A document is malformed if it breaks the grammar of the notation, or if its nodes cannot be put
together. Apart from that a scalar can fail to be a value of the type that it claims.
-/

namespace SwiftDecl.Yaml

/-- Why a text is no document. -/
inductive Malformed where
  | character (c : Char)
  | noToken (c : Option Char)
  | keyWithoutValue
  | entryNotAllowed
  | keyNotAllowed
  | valueNotAllowed
  | unopened
  | directive
  | name
  | tag
  | address
  | blockHeader
  | quote
  | escape
  | unexpected (found : Option Token)
  | directiveTwice
  | version (major : Nat)
  | undefinedHandle (handle : String)
  | undefinedAlias (name : String)
  | anchorTwice (name : String)
  | severalDocuments
  | notScalar
  | notSequence
  | notMapping
  | notPair
  | notMergeable
  | keyNotHashable
  | unknownTag
  | binary
deriving DecidableEq, Repr

/-- Why a text is no value of its type. -/
inductive ValueFault where
  | numeral (f : Text.NumeralFault)
  | float (text : String)
  | overflow
  | noNumber
  | truth (word : String)
  | timestamp
  /-- A mapping stands for the text of a timestamp. -/
  | notText
  /-- A mapping stands for a scalar, and that scalar is the mapping again. -/
  | endless
  | year (year : Nat)
  | month
  | day
  | hour
  | minute
  | second
  | offset (minutes : Int)
  | character (code : Nat)
  /-- An escape spells half of a surrogate pair, which no text holds. -/
  | surrogate (code : Nat)
deriving DecidableEq, Repr

/-- The text of a fault. -/
def ValueFault.message : ValueFault → String
  | numeral f => f.message
  | float text => "could not convert string to float: " ++ Text.quoted text
  | overflow => "int too large to convert to float"
  | noNumber => "string index out of range"
  | truth word => Text.quoted word
  | timestamp | notText | endless | surrogate _ => ""
  | year y => "year " ++ toString y ++ " is out of range"
  | month => "month must be in 1..12"
  | day => "day is out of range for month"
  | hour => "hour must be in 0..23"
  | minute => "minute must be in 0..59"
  | second => "second must be in 0..59"
  | offset minutes =>
    "offset must be a timedelta strictly between -timedelta(hours=24) and timedelta(hours=24), " ++
      "not " ++ shownSpan minutes ++ "."
  | character _ => "chr() arg not in range(0x110000)"

/-- Why a text cannot be loaded. -/
inductive Fault where
  | malformed (m : Malformed)
  | value (v : ValueFault)
deriving DecidableEq, Repr

end SwiftDecl.Yaml
