import SwiftDecl.Text.Quoted

/-!
# Files

Paths from the root of a tree of files, and what it gives at a path: whether something is there, if
that can be told, and the bytes of a file or the reason why there are none. A path means what its
text says, as if no name in the tree were a link.
-/

namespace SwiftDecl

/-- A path from the root of the tree, by the names on the way. -/
structure Path where
  steps : List String
deriving DecidableEq, Repr

namespace Path

/-- The path as a text. -/
def text (p : Path) : String :=
  "/" ++ "/".intercalate p.steps

/-- The path one step up. The root has no other. -/
def parent (p : Path) : Path :=
  ⟨p.steps.dropLast⟩

/-- The path of a name in a directory. -/
def child (p : Path) (name : String) : Path :=
  ⟨p.steps ++ [name]⟩

/-- The names between the slashes of a text. -/
def names : List Char → List (List Char)
  | [] => [[]]
  | c :: cs =>
    match c, names cs with
    | '/', rest => [] :: rest
    | c, name :: rest => (c :: name) :: rest
    | c, [] => [[c]]

/-- Goes on by a name from the steps so far, the last one first: none and `.` stay, `..` goes
up. -/
def follow (steps : List String) (name : List Char) : List String :=
  if name = [] ∨ name = ['.'] then steps
  else if name = ['.', '.'] then steps.tail
  else String.ofList name :: steps

/-- The text can mean a path: it does not hold the character that ends the names of files. -/
def isMeant (s : String) : Bool :=
  !s.toList.contains '\x00'

/-- The path that a text means in a directory. -/
def resolve (directory : Path) (s : String) : Path :=
  let start := if s.toList.head? = some '/' then [] else directory.steps
  ⟨((names s.toList).foldl follow start.reverse).reverse⟩

end Path

/-- Why a path cannot be looked at or a file cannot be read. -/
inductive FileFault where
  | notFound
  | notDirectory
  | isDirectory
  | nameTooLong
  | other (number : Nat) (text : String)
deriving DecidableEq, Repr

namespace FileFault

/-- The number by which the operating system knows the fault. -/
def number : FileFault → Nat
  | notFound => 2
  | notDirectory => 20
  | isDirectory => 21
  | nameTooLong => 36
  | other n _ => n

/-- The words for the fault. -/
def text : FileFault → String
  | notFound => "No such file or directory"
  | notDirectory => "Not a directory"
  | isDirectory => "Is a directory"
  | nameTooLong => "File name too long"
  | other _ s => s

/-- Looking at a path with this fault tells that nothing is there: there is no such name, a file
stands in the way, what was opened is closed, or links go in a circle. With any other fault it
cannot be told. -/
def tellsNothing (f : FileFault) : Bool :=
  [2, 20, 9, 40].contains f.number

/-- The text of the fault at a path. -/
def message (f : FileFault) (p : Path) : String :=
  "[Errno " ++ toString f.number ++ "] " ++ f.text ++ ": " ++ Text.quoted p.text

end FileFault

/-- A tree of files, by what looking at a path gives and what reading at it gives. Neither follows
from the other: a file can be there that must not be read. -/
structure FileTree where
  look : Path → Except FileFault Unit
  read : Path → Except FileFault (List UInt8)

/-- There is something at a path, if that can be told. -/
def FileTree.holds (files : FileTree) (p : Path) : Except FileFault Bool :=
  match files.look p with
  | .ok () => .ok true
  | .error f => if f.tellsNothing then .ok false else .error f

/-- A file or a directory of a tree: where it is, and its bytes if it is a file. -/
structure FileTree.Entry where
  steps : List String
  bytes : Option (List UInt8)
deriving DecidableEq, Repr

/-- How many bytes the name of a file can have. -/
def nameLimit : Nat := 255

/-- How many bytes a path can have. -/
def pathLimit : Nat := 4095

/-- Goes on to the bytes in a tree of some entries, from the names that have been passed. -/
def FileTree.lookUp (entries : List FileTree.Entry) (passed : List String) :
    List String → Except FileFault (List UInt8)
  | [] => .error .isDirectory
  | name :: rest =>
    let here := passed ++ [name]
    if nameLimit < name.utf8ByteSize then .error .nameTooLong
    else
      match entries.find? fun e => e.steps == here with
      | some ⟨_, some bytes⟩ => if rest.isEmpty then .ok bytes else .error .notDirectory
      | _ =>
        if entries.any fun e => here.isPrefixOf e.steps then lookUp entries here rest
        else .error .notFound

/-- The device that every tree has and that is always empty. -/
def FileTree.nullDevice : FileTree.Entry :=
  ⟨["dev", "null"], some []⟩

/-- The bytes at a path among some files and directories. -/
def FileTree.bytesAt (entries : List FileTree.Entry) (p : Path) : Except FileFault (List UInt8) :=
  if pathLimit < p.text.utf8ByteSize then .error .nameTooLong
  else lookUp (nullDevice :: entries) [] p.steps

/-- The tree of some files and directories, with the directories around them. All of it can be
looked at, and all files can be read. -/
def FileTree.ofEntries (entries : List FileTree.Entry) : FileTree where
  look p :=
    match bytesAt entries p with
    | .ok _ | .error .isDirectory => .ok ()
    | .error f => .error f
  read := bytesAt entries

/-- All line ends as line feeds. -/
def unifyLineEnds : List Char → List Char
  | '\r' :: '\n' :: cs => '\n' :: unifyLineEnds cs
  | '\r' :: cs => '\n' :: unifyLineEnds cs
  | c :: cs => c :: unifyLineEnds cs
  | [] => []

/-- The text that the bytes of a file spell, with all line ends as line feeds. -/
def textOfBytes? (bytes : List UInt8) : Option String :=
  (String.fromUTF8? (ByteArray.mk bytes.toArray)).map fun s =>
    String.ofList (unifyLineEnds s.toList)

end SwiftDecl
