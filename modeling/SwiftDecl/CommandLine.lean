import SwiftDecl.CommandLine.Arguments
import SwiftDecl.Document.Build
import SwiftDecl.FileTree

/-!
# The command line

The program renders the declaration that a document describes, or tells the kind of declaration
that a name selects. It is a function of its arguments and of the files that there are. A
configuration is taken from where an option says, or from beside the document.

Recursion has no limit here: a document is read, built and written however deep its parts are
nested, and no run ends because a stack is used up.
-/

namespace SwiftDecl.CommandLine

/-- The name of a configuration beside a document. -/
def configFileName : String :=
  ".swiftspec.yaml"

/-- Why the program ends without a result and without a report. -/
inductive Crash where
  | encoding
  | document (v : Yaml.ValueFault)
  | config (c : ConfigCrash)
  /-- An argument means no path. -/
  | noPath
  /-- It cannot be told whether there is a file at a path. -/
  | unknownFile (p : Path) (f : FileFault)
  | layout (f : LayoutFault)

/-- Why a document is not rendered. -/
inductive Failure where
  | configMissing (p : Path)
  | configUnreadable (p : Path) (f : FileFault)
  | config (label : String) (problem : ConfigProblem)
  | documentUnreadable (p : Path) (f : FileFault)
  | document (e : DocumentError)
  | crash (c : Crash)

/-- The report of a failure. -/
def Failure.message : Failure → String
  | configMissing p => "Writer config file not found: " ++ p.text
  | configUnreadable p f => "Cannot read writer config file: " ++ f.message p
  | config label problem => problem.message label
  | documentUnreadable p f =>
    "Cannot read declaration document '" ++ p.text ++ "': " ++ f.message p
  | document e => e.message
  | crash _ => ""

/-- A failure to load a configuration. -/
def Failure.ofConfigError : ConfigError → Failure
  | .invalid label problem => config label problem
  | .crash c => crash (.config c)

/-- A failure to load a document or to build its declaration. -/
def Failure.ofDocumentError : DocumentError → Failure
  | .value v => crash (.document v)
  | e => document e

/-- The part of the program that a note is about. -/
inductive Source where
  | commandLine
  | document
  | function
deriving DecidableEq, Repr

/-- The name of a part in notes. -/
def Source.name : Source → String
  | commandLine => "swiftspec.cli.main"
  | document => "swiftspec.cli.document"
  | function => "swiftspec.spec.function"

/-- What happens on the way, noted line by line, and a result or a failure. -/
abbrev Session := ExceptT Failure (StateM String)

/-- Notes what happens. -/
def note (source : Source) (text : String) : Session Unit :=
  modify fun notes => notes ++ "DEBUG " ++ source.name ++ ": " ++ text ++ "\n"

/-- A result, or a failure of a kind. -/
def orFail {ε α : Type} (failure : ε → Failure) (r : Except ε α) : Session α :=
  match r with
  | .ok x => pure x
  | .error e => throw (failure e)

/-- The text of the bytes of a file. -/
def decode (bytes : List UInt8) : Session String :=
  match textOfBytes? bytes with
  | some text => pure text
  | none => throw (.crash .encoding)

/-- Why a configuration cannot be read. -/
def configFault (p : Path) : FileFault → Failure
  | .notFound => .configMissing p
  | f => .configUnreadable p f

/-- Loads a configuration. -/
def loadConfig (files : FileTree) (p : Path) : Session WriterConfig := do
  note .commandLine ("Loading writer config from " ++ p.text)
  let text ← decode (← orFail (configFault p) (files.read p))
  orFail Failure.ofConfigError (WriterConfig.parse text p.text)

/-- The path that an argument means in a directory. -/
def pathOf (directory : Path) (argument : String) : Session Path :=
  if Path.isMeant argument then pure (directory.resolve argument) else throw (.crash .noPath)

/-- The path of the configuration for a document, if there is to be one. -/
def configPath? (files : FileTree) (directory : Path) (option : Option String) (document : Path) :
    Session (Option Path) := do
  match option with
  | some argument => return some (← pathOf directory argument)
  | none =>
    let beside := document.parent.child configFileName
    if ← orFail (fun f => .crash (.unknownFile beside f)) (files.holds beside) then
      return some beside
    else return none

/-- Loads a document. -/
def loadDocument (files : FileTree) (p : Path) : Session Document := do
  let text ← decode (← orFail (.documentUnreadable p) (files.read p))
  orFail Failure.ofDocumentError (Document.parse text p.text)

/-- Builds the declaration of a document. -/
def buildDeclaration (d : Document) (p : Path) : Session FunctionDecl := do
  note .document ("Building " ++ d.kind.documentWord ++ " declaration from " ++ p.text)
  let f ← orFail Failure.ofDocumentError (d.declaration p.text)
  note .function ("Built " ++ f.kind.word ++ " declaration " ++ Text.quoted f.name)
  return f

/-- A text that ends with a line end. -/
def endLine (s : String) : String :=
  if s.toList.getLast? = some '\n' then s else s ++ "\n"

/-- Renders the declaration that a document describes. -/
def render (files : FileTree) (directory : Path) (document : String) (config : Option String)
    (isConcise : Bool) : Session String := do
  let p ← pathOf directory document
  let c ← match ← configPath? files directory config p with
    | some configPath => loadConfig files configPath
    | none => pure {}
  let d ← loadDocument files p
  let f ← buildDeclaration d p
  match ({ unit := c.indent } : Writer).write (c.layout f isConcise) with
  | (w, none) => return endLine w.output
  | (_, some fault) => throw (.crash (.layout fault))

/-- How the program ends. -/
inductive Ending where
  | exit (code : Nat)
  | crash (c : Crash)

/-- What the program does: how it ends, and what it writes. -/
structure Outcome where
  ending : Ending
  stdout : String := ""
  stderr : String := ""

/-- The outcome of a session. Notes are written only if asked for. -/
def outcome (isVerbose : Bool) (s : Session String) : Outcome :=
  let (result, notes) := s.run.run ""
  let notes := if isVerbose then notes else ""
  match result with
  | .ok text => { ending := .exit 0, stdout := text, stderr := notes }
  | .error (.crash c) => { ending := .crash c, stderr := notes }
  | .error failure =>
    { ending := .exit 1, stderr := notes ++ "Error: " ++ failure.message ++ "\n" }

/-- Runs the program in a directory. -/
def run (files : FileTree) (directory : Path) (arguments : List String) : Outcome :=
  match parse arguments with
  | .error (topic, .help) => { ending := .exit 0, stdout := topic.usage }
  | .error (topic, .misuse) => { ending := .exit 2, stderr := topic.usage }
  | .ok { command := none, .. } => { ending := .exit 0, stdout := Topic.program.usage }
  | .ok { command := some (.classify name), .. } =>
    { ending := .exit 0, stdout := (FunctionKind.ofName name).word ++ "\n" }
  | .ok { command := some (.render document config isConcise), isVerbose } =>
    outcome isVerbose (render files directory document config isConcise)

/-- The paths that the program reads. -/
def readPaths (directory : Path) (arguments : List String) : List Path :=
  match parse arguments with
  | .ok { command := some (.render document config _), .. } =>
    let p := directory.resolve document
    [p, match config with
      | some text => directory.resolve text
      | none => p.parent.child configFileName]
  | _ => []

end SwiftDecl.CommandLine
