import SwiftDecl.Text.Blank
import SwiftDecl.Text.Word

/-!
# Arguments of the command line

The program has options of its own, which stand before the command, and each command has options
and one operand. A long option can be shortened as long as no other starts in the same way. Two
hyphens end the options.
-/

namespace SwiftDecl.CommandLine

/-- What an option says. -/
inductive Switch where
  | help
  | verbose
  | config
  | concise
deriving DecidableEq, Repr

/-- The option needs a value. -/
def Switch.takesValue : Switch → Bool
  | config => true
  | _ => false

/-- The options of the program or of a command by their spellings. -/
abbrev Grammar := List (String × Switch)

/-- The options of the program. -/
def programGrammar : Grammar :=
  [("-h", .help), ("--help", .help), ("-v", .verbose), ("--verbose", .verbose)]

/-- The options of the command that renders a document. -/
def renderGrammar : Grammar :=
  [("-h", .help), ("--help", .help), ("--config", .config), ("--concise", .concise)]

/-- The options of the command that classifies a name. -/
def classifyGrammar : Grammar :=
  [("-h", .help), ("--help", .help)]

/-- A word of the command line. -/
inductive Word where
  | operand (text : String)
  | separator
  /-- Options that need no value; after them there can be letters that stand for none. -/
  | switches (ss : List Switch) (hasOthers : Bool)
  /-- An option that needs a value, which can be a part of the word. -/
  | setting (s : Switch) (value : Option String)
  /-- An option that there is not. -/
  | unknown
  /-- An option with a value that it does not take. -/
  | broken
deriving DecidableEq, Repr

/-- What the user is shown instead of a result: help that was asked for, or how the program is
used. -/
inductive Refusal where
  | help
  | misuse
deriving DecidableEq, Repr

namespace Grammar

/-- The option with a spelling. -/
def switch? (g : Grammar) (spelling : String) : Option Switch :=
  (g.find? fun o => o.1 == spelling).map (·.2)

/-- The options that letters stand for, up to the first that stands for none, and whether there is
such a letter. A hyphen or a value cannot follow an option here. -/
def cluster? (g : Grammar) : List Char → Option (List Switch × Bool)
  | [] => some ([], false)
  | c :: cs =>
    if c = '-' ∨ c = '=' then none
    else
      match g.switch? (String.ofList ['-', c]) with
      | some s => (g.cluster? cs).map fun (ss, hasOthers) => (s :: ss, hasOthers)
      | none => some ([], true)

/-- An option with the value that is a part of its word. -/
def word (s : Switch) (value : Option (List Char)) : Word :=
  if s.takesValue then .setting s (value.map String.ofList)
  else if value.isSome then .broken
  else .switches [s] false

/-- A short option with the letters that follow it. -/
def shortWord (g : Grammar) (s : Switch) (letters : List Char) : Word :=
  if s.takesValue then .setting s (some (String.ofList letters))
  else
    match g.cluster? letters with
    | some (ss, hasOthers) => .switches (s :: ss) hasOthers
    | none => .broken

/-- The long options that start in a way. -/
def startingWith (g : Grammar) (start : List Char) : List Switch :=
  (g.filter fun o => start.isPrefixOf o.1.toList).map (·.2)

/-- The text is a negative number, which may end with a line feed. -/
def isNegativeNumber (cs : List Char) : Bool :=
  let isDigit c := (Text.decimalValue? c).isSome
  match Text.dropFinalBreak cs with
  | '-' :: ds =>
    let rest := ds.dropWhile isDigit
    match rest with
    | [] => !ds.isEmpty
    | '.' :: fraction => !fraction.isEmpty && fraction.all isDigit
    | _ => false
  | _ => false

/-- A word that starts like no option. -/
def strangeWord (text : String) : Word :=
  if isNegativeNumber text.toList ∨ text.toList.contains ' ' then .operand text else .unknown

/-- A word that spells no option exactly. -/
def otherWord (g : Grammar) (text : String) : Except Refusal Word :=
  let cs := text.toList
  if cs.take 2 = ['-', '-'] then
    match g.startingWith (cs.takeWhile (· != '=')) with
    | [s] =>
      .ok (word s (if cs.contains '=' then some ((cs.dropWhile (· != '=')).drop 1) else none))
    | [] => .ok (strangeWord text)
    | _ => .error .misuse
  else
    match g.switch? (String.ofList (cs.take 2)) with
    | some s => .ok (g.shortWord s (cs.drop 2))
    | none => .ok (strangeWord text)

/-- What a word of the command line is. -/
def classify (g : Grammar) (text : String) : Except Refusal Word :=
  let cs := text.toList
  if cs.head? ≠ some '-' ∨ cs = ['-'] then .ok (.operand text)
  else
    match g.switch? text with
    | some s => .ok (word s none)
    | none =>
      match g.switch? (String.ofList (cs.takeWhile (· != '='))) with
      | some s => .ok (word s (some ((cs.dropWhile (· != '=')).drop 1)))
      | none => g.otherWord text

/-- The words of a command line. After two hyphens there are no options. -/
def words (g : Grammar) : List String → Except Refusal (List Word)
  | [] => .ok []
  | text :: rest =>
    if text = "--" then .ok (.separator :: rest.map .operand)
    else do
      let w ← g.classify text
      return w :: (← words g rest)

end Grammar

/-- What has been said on the command line. -/
structure Settings where
  operand : Option String := none
  isVerbose : Bool := false
  config : Option String := none
  isConcise : Bool := false
  /-- Something has been said that is not understood. -/
  hasSurplus : Bool := false
deriving DecidableEq, Repr

namespace Settings

/-- Takes options that need no value. -/
def switch (st : Settings) : List Switch → Except Refusal Settings
  | [] => .ok st
  | .help :: _ => .error .help
  | .verbose :: ss => switch { st with isVerbose := true } ss
  | .concise :: ss => switch { st with isConcise := true } ss
  | .config :: ss => switch st ss

/-- Notes whether there is more than is understood. -/
def surplus (st : Settings) (hasMore : Bool := true) : Settings :=
  { st with hasSurplus := st.hasSurplus || hasMore }

/-- Takes an operand: there is only one. -/
def take (st : Settings) (text : String) : Settings :=
  if st.operand.isNone then { st with operand := some text } else st.surplus

/-- Reads the words of a command. -/
def read (st : Settings) : List Word → Except Refusal Settings
  | [] => .ok st
  -- The hyphens on either side of the first operand belong to it; others are surplus.
  | .operand text :: .separator :: ws =>
    if st.operand.isNone then read (st.take text) ws else read st.surplus ws
  | .operand text :: ws => read (st.take text) ws
  | .separator :: .operand text :: ws =>
    if st.operand.isNone then read (st.take text) ws else read st.surplus ws
  | .separator :: ws => read st.surplus ws
  | .switches ss hasOthers :: ws => do
    let st ← st.switch ss
    read (st.surplus hasOthers) ws
  | .setting _ (some value) :: ws => read { st with config := some value } ws
  | .setting _ none :: .operand value :: ws => read { st with config := some value } ws
  | .setting _ none :: _ => .error .misuse
  | .unknown :: ws => read st.surplus ws
  | .broken :: _ => .error .misuse

end Settings

/-- What the program is asked to do. -/
inductive Command where
  | render (document : String) (config : Option String) (isConcise : Bool)
  | classify (name : String)
deriving DecidableEq, Repr

/-- A call of the program. -/
structure Call where
  isVerbose : Bool
  command : Option Command
deriving DecidableEq, Repr

/-- What the user is told about. -/
inductive Topic where
  | program
  | render
  | classify
deriving DecidableEq, Repr

/-- How the program or a command is used. -/
def Topic.usage : Topic → String
  | program => "usage: swiftdecl [-h] [-v] COMMAND ...\n"
  | render => "usage: swiftdecl render [-h] [--config CONFIG] [--concise] document\n"
  | classify => "usage: swiftdecl classify [-h] name\n"

/-- A result, or what the user is shown about a topic instead. -/
abbrev Reply (α : Type) := Except (Topic × Refusal) α

/-- Reads the words of a command. The result tells also whether there is more than is
understood. -/
def readCommand (name : String) (arguments : List String) : Reply (Command × Bool) :=
  match name with
  | "render" => about .render do
    let st ← ({} : Settings).read (← renderGrammar.words arguments)
    match st.operand with
    | some document => return (.render document st.config st.isConcise, st.hasSurplus)
    | none => throw .misuse
  | "classify" => about .classify do
    let st ← ({} : Settings).read (← classifyGrammar.words arguments)
    match st.operand with
    | some name => return (.classify name, st.hasSurplus)
    | none => throw .misuse
  | _ => .error (.program, .misuse)
where
  /-- A refusal is about a topic. -/
  about {α : Type} (topic : Topic) (r : Except Refusal α) : Reply α :=
    r.mapError fun refusal => (topic, refusal)

/-- Reads the words of the program up to the command, each with its text. -/
def readProgram (st : Settings) : List (Word × String) → Reply Call
  | [] =>
    if st.hasSurplus then .error (.program, .misuse)
    else .ok { isVerbose := st.isVerbose, command := none }
  | (.operand name, _) :: rest => do
    let (command, hasSurplus) ← readCommand name (rest.map (·.2))
    -- Surplus words are refused last, after all help that was asked for.
    if st.hasSurplus || hasSurplus then throw (.program, .misuse)
    return { isVerbose := st.isVerbose, command := some command }
  | (.switches ss hasOthers, _) :: rest => do
    let st ← (st.switch ss).mapError fun refusal => (.program, refusal)
    readProgram (st.surplus hasOthers) rest
  | (.unknown, _) :: rest => readProgram st.surplus rest
  | _ :: _ => .error (.program, .misuse)

/-- Reads the command line. -/
def parse (arguments : List String) : Reply Call := do
  let ws ← (programGrammar.words arguments).mapError fun refusal => (Topic.program, refusal)
  readProgram {} (ws.zip arguments)

end SwiftDecl.CommandLine
