import SwiftDecl.Yaml.Token.Block
import SwiftDecl.Yaml.Token.Plain
import SwiftDecl.Yaml.Token.Property
import SwiftDecl.Yaml.Token.Quoted

/-!
# Reading tokens

The scanner reads one token after the other. A key of a mapping that carries no indicator of its
own is recognized only by the colon after it: its tokens are inserted before it when the colon is
reached. Such a key lies in one line and is at most 1024 characters long.
-/

namespace SwiftDecl.Yaml

/-- A place where a key without an indicator may have started. -/
structure PossibleKey where
  /-- How many brackets are open around it. -/
  level : Nat
  /-- How many tokens are before it. -/
  position : Nat
  /-- The block needs the key: nothing else can start at this indentation. -/
  isRequired : Bool
  place : Cursor
deriving Repr

/-- A key cannot end here any more. -/
def PossibleKey.isStale (k : PossibleKey) (c : Cursor) : Bool :=
  k.place.line != c.line || 1024 < c.index - k.place.index

/-- The state of reading tokens. -/
structure Scanner where
  cursor : Cursor
  /-- The tokens that have been read, the last one first. -/
  tokens : List Token := []
  /-- How many tokens there are. -/
  count : Nat := 0
  /-- How many brackets are open. -/
  flowLevel : Nat := 0
  /-- The column of the innermost block; there is none before the first. -/
  indent : Int := -1
  /-- The columns of the blocks around it. -/
  outer : List Int := []
  /-- A key without an indicator can start here. -/
  keyAllowed : Bool := true
  possibleKeys : List PossibleKey := []
deriving Repr

namespace Scanner

/-- The place is between brackets. -/
def inFlow (s : Scanner) : Bool :=
  s.flowLevel != 0

/-- Adds a token. -/
def push (s : Scanner) (t : Token) : Scanner :=
  { s with tokens := t :: s.tokens, count := s.count + 1 }

/-- Adds a token of some characters. -/
def pushMark (s : Scanner) (length : Nat) (t : Token) : Scanner :=
  { s.push t with cursor := s.cursor.advanceBy length }

/-! ## Possible keys -/

/-- Gives up possible keys, of which none may be required. -/
def giveUp (s : Scanner) (stale : PossibleKey → Bool) : Except Fault Scanner :=
  if s.possibleKeys.any fun k => stale k && k.isRequired then .error (.malformed .keyWithoutValue)
  else .ok { s with possibleKeys := s.possibleKeys.filter fun k => !stale k }

/-- Gives up the keys that cannot end here any more. -/
def dropStaleKeys (s : Scanner) : Except Fault Scanner :=
  s.giveUp fun k => k.isStale s.cursor

/-- Gives up the key of this level of brackets. -/
def forgetKey (s : Scanner) : Except Fault Scanner :=
  s.giveUp fun k => k.level == s.flowLevel

/-- Notes that a key may start here, if one is allowed. -/
def noteKey (s : Scanner) : Except Fault Scanner :=
  if !s.keyAllowed then .ok s
  else do
    let isRequired := !s.inFlow && s.indent == s.cursor.column
    let s ← s.forgetKey
    let key : PossibleKey :=
      { level := s.flowLevel, position := s.count, isRequired, place := s.cursor }
    return { s with possibleKeys := key :: s.possibleKeys }

/-! ## Blocks -/

/-- Leaves the blocks that are indented more than a column. -/
def unwindTo (column : Int) : (outer : List Int) → Scanner → Scanner
  | [], s => s
  | previous :: outer, s =>
    if column < s.indent then
      unwindTo column outer { s.push .blockEnd with indent := previous, outer }
    else s

/-- Leaves the blocks that are indented more than a column. Between brackets indentation does not
count. -/
def unwind (s : Scanner) (column : Int) : Scanner :=
  if s.inFlow then s else unwindTo column s.outer s

/-- Enters a block at a column that is indented more than the block around it. -/
def enterBlock (s : Scanner) (column : Nat) (start : Token) : Scanner :=
  if s.indent < column then
    { s.push start with indent := column, outer := s.indent :: s.outer }
  else s

/-! ## Tokens -/

/-- Skips blanks, comments and line ends. Outside of brackets a new line allows a key. -/
def skipBlanks : (fuel : Nat) → Scanner → Scanner
  | 0, s => s
  | fuel + 1, s =>
    let c := s.cursor.skipSpaces.skipComment
    match c.lineBreak? with
    | some (_, next) =>
      skipBlanks fuel { s with cursor := next, keyAllowed := s.keyAllowed || !s.inFlow }
    | none => { s with cursor := c }

/-- A directive, or a separator of documents: it ends all blocks. -/
def startOver (s : Scanner) : Except Fault Scanner := do
  return { ← (s.unwind (-1)).forgetKey with keyAllowed := false }

/-- Reads a separator of documents. -/
def separator (s : Scanner) (t : Token) : Except Fault Scanner := do
  return (← s.startOver).pushMark 3 t

/-- Reads a directive. -/
def directive (s : Scanner) : Except Fault Scanner := do
  let s ← s.startOver
  let (d, next) ← s.cursor.scanDirective
  return { s.push (.directive d) with cursor := next }

/-- Reads an opening bracket. -/
def openFlow (s : Scanner) (t : Token) : Except Fault Scanner := do
  let s ← s.noteKey
  return { s.pushMark 1 t with flowLevel := s.flowLevel + 1, keyAllowed := true }

/-- Reads a closing bracket. -/
def closeFlow (s : Scanner) (t : Token) : Except Fault Scanner := do
  if !s.inFlow then throw (.malformed .unopened)
  let s ← s.forgetKey
  return { s.pushMark 1 t with flowLevel := s.flowLevel - 1, keyAllowed := false }

/-- Reads a comma between brackets. -/
def flowEntry (s : Scanner) : Except Fault Scanner := do
  let s ← s.forgetKey
  return { s.pushMark 1 .flowEntry with keyAllowed := true }

/-- Reads the hyphen of an entry. -/
def blockEntry (s : Scanner) : Except Fault Scanner := do
  if !s.inFlow && !s.keyAllowed then throw (.malformed .entryNotAllowed)
  let s := if s.inFlow then s else s.enterBlock s.cursor.column .blockSequenceStart
  let s ← s.forgetKey
  return { s.pushMark 1 .blockEntry with keyAllowed := true }

/-- Reads the question mark of a key. -/
def keyMark (s : Scanner) : Except Fault Scanner := do
  if !s.inFlow && !s.keyAllowed then throw (.malformed .keyNotAllowed)
  let s := if s.inFlow then s else s.enterBlock s.cursor.column .blockMappingStart
  let s ← s.forgetKey
  return { s.pushMark 1 .key with keyAllowed := !s.inFlow }

/-- Inserts tokens at a position. The last of them comes first. -/
def insert (s : Scanner) (position : Nat) (ts : List Token) : Scanner :=
  let after := s.count - position
  { s with
    tokens := s.tokens.take after ++ ts ++ s.tokens.drop after
    count := s.count + ts.length }

/-- Inserts the tokens of a key that turns out to be one. -/
def insertKey (s : Scanner) (k : PossibleKey) : Scanner :=
  let s := { s with possibleKeys := s.possibleKeys.filter fun other => other.level != k.level }
  -- The tokens of the key have been read already, so the new tokens go in before them.
  if !s.inFlow && s.indent < (k.place.column : Int) then
    { s.insert k.position [.key, .blockMappingStart] with
      indent := k.place.column
      outer := s.indent :: s.outer }
  else s.insert k.position [.key]

/-- Reads the colon of a value. -/
def valueMark (s : Scanner) : Except Fault Scanner := do
  match s.possibleKeys.find? fun k => k.level == s.flowLevel with
  | some k => return { (s.insertKey k).pushMark 1 .value with keyAllowed := false }
  | none =>
    if !s.inFlow && !s.keyAllowed then throw (.malformed .valueNotAllowed)
    let s := if s.inFlow then s else s.enterBlock s.cursor.column .blockMappingStart
    let s ← s.forgetKey
    return { s.pushMark 1 .value with keyAllowed := !s.inFlow }

/-- Reads a token that a node can start with, and that can be part of a key. -/
def property (s : Scanner) (read : Cursor → Except Fault (Token × Cursor)) :
    Except Fault Scanner := do
  let s ← s.noteKey
  let (t, next) ← read s.cursor
  return { s.push t with cursor := next, keyAllowed := false }

/-- Reads a block scalar. -/
def blockScalar (s : Scanner) (folded : Bool) : Except Fault Scanner := do
  let s ← s.forgetKey
  let (text, next) ← Block.scan folded s.indent s.cursor
  return { s.push (.scalar text false) with cursor := next, keyAllowed := true }

/-- Reads a plain scalar. If it ends after a line break, a key can follow. -/
def plainScalar (s : Scanner) : Except Fault Scanner := do
  let s ← s.noteKey
  let (text, next, passed) := Plain.scan s.inFlow (s.indent + 1) s.cursor
  return { s.push (.scalar text true) with cursor := next, keyAllowed := passed }

/-- A plain scalar can start with a character that is followed by another. -/
def startsPlain (flow : Bool) (c : Char) (next : Option Char) : Bool :=
  if c == '-' then !endsWord next
  else if c == '?' || c == ':' then !flow && !endsWord next
  else !(endsWord (some c) || ",[]\x7b\x7d#&*!|>'\"%@`".toList.contains c)

/-- Reads the next token, which starts with a character. -/
def token (s : Scanner) (first : Char) : Except Fault Scanner :=
  let next := s.cursor.peekAt 1
  if s.cursor.column = 0 ∧ first = '%' then s.directive
  else if s.cursor.column = 0 ∧ s.cursor.atSeparator then
    s.separator (if first = '-' then .documentStart else .documentEnd)
  else if first = '[' then s.openFlow .flowSequenceStart
  else if first = '\x7b' then s.openFlow .flowMappingStart
  else if first = ']' then s.closeFlow .flowSequenceEnd
  else if first = '\x7d' then s.closeFlow .flowMappingEnd
  else if first = ',' then s.flowEntry
  else if first = '-' ∧ endsWord next then s.blockEntry
  else if first = '?' ∧ (s.inFlow ∨ endsWord next) then s.keyMark
  else if first = ':' ∧ (s.inFlow ∨ endsWord next) then s.valueMark
  else if first = '*' then s.property fun c => do
    let (name, next) ← c.scanName
    return (.alias name, next)
  else if first = '&' then s.property fun c => do
    let (name, next) ← c.scanName
    return (.anchor name, next)
  else if first = '!' then s.property Cursor.scanTag
  else if first = '|' ∧ !s.inFlow then s.blockScalar false
  else if first = '>' ∧ !s.inFlow then s.blockScalar true
  else if first = '\'' ∨ first = '"' then s.property fun c => do
    let (text, next) ← Quoted.scan (first == '"') c
    return (.scalar text false, next)
  else if startsPlain s.inFlow first next then s.plainScalar
  else .error (.malformed (.noToken (some first)))

/-- The tokens before which no key can be inserted any more. -/
def settled (s : Scanner) : List Token :=
  let keys := match s.dropStaleKeys with
    | .ok s => s.possibleKeys
    | .error _ => s.possibleKeys
  s.tokens.reverse.take (keys.foldl (fun n k => min n k.position) s.count)

/-- Goes on to the next token and reads it. At the end of the text there is none. -/
def next? (s : Scanner) : Except Fault (Scanner × Bool) := do
  let s ← (s.skipBlanks (s.cursor.left + 1)).dropStaleKeys
  let s := s.unwind s.cursor.column
  match s.cursor.peek with
  -- At the end of the text all blocks end, and a key that still waits for its colon is a fault.
  | none => return (← (s.unwind (-1)).forgetKey, false)
  | some first => return (← s.token first, true)

end Scanner

/-- The tokens of a text, and what stops the reading of more. -/
structure Scan where
  tokens : List Token := []
  stop : Option Fault := none
deriving DecidableEq, Repr

/-- Reads the tokens up to the end of the text. At a fault there are those that are settled. -/
def Scanner.run : (fuel : Nat) → Scanner → Scan
  | 0, s => { tokens := s.settled, stop := some (.malformed (.noToken s.cursor.peek)) }
  | fuel + 1, s =>
    match s.next? with
    | .ok (next, true) => run fuel next
    | .ok (last, false) => { tokens := last.tokens.reverse }
    | .error fault => { tokens := s.settled, stop := some fault }

/-- The tokens of a text. -/
def scan (text : String) : Scan :=
  let chars := text.toList
  match chars.find? fun c => !isAllowed c with
  | some c => { stop := some (.malformed (.character c)) }
  | none =>
    let start : Cursor := { rest := chars }
    let start := if start.peek = some byteOrderMark then start.advance else start
    Scanner.run (chars.length + 1) { cursor := start }

end SwiftDecl.Yaml
