import SwiftDecl.CommandLine

/-!
# The program

Reads the files that the command line needs, runs the command and writes what it says.
-/

namespace SwiftDecl

/-- What reading a file gives. -/
def readFile (p : Path) : IO (Except FileFault (List UInt8)) := do
  try
    return .ok (← IO.FS.readBinFile p.text).toList
  catch
    | .noFileOrDirectory .. => return .error .notFound
    | .inappropriateType _ code details => return .error (fault code details)
    | .permissionDenied _ code details => return .error (fault code details)
    | .invalidArgument _ code details => return .error (fault code details)
    | e => return .error (.other 5 (toString e))
where
  /-- The fault with a number. -/
  fault (code : UInt32) (details : String) : FileFault :=
    if code = 20 then .notDirectory
    else if code = 21 then .isDirectory
    else if code = 36 then .nameTooLong
    else .other code.toNat details

/-- What looking at a path gives, by what reading has given: a path that leads nowhere fails for the
same reason in both. -/
def lookAt (p : Path) (bytes : Except FileFault (List UInt8)) : IO (Except FileFault Unit) := do
  try
    let _ ← IO.FS.realPath p.text
    return .ok ()
  catch
    | _ => return bytes.map fun _ => ()

/-- What looking at a path and reading at it have given. -/
structure Seen where
  path : Path
  look : Except FileFault Unit
  bytes : Except FileFault (List UInt8)

/-- Looks at a path and reads at it. -/
def see (path : Path) : IO Seen := do
  let bytes ← readFile path
  return { path, look := ← lookAt path bytes, bytes }

/-- The tree of what has been seen. -/
def treeOf (seen : List Seen) : FileTree where
  look p := ((seen.find? fun s => s.path == p).map Seen.look).getD (.error .notFound)
  read p := ((seen.find? fun s => s.path == p).map Seen.bytes).getD (.error .notFound)

end SwiftDecl

/-- Runs the program. -/
def main (arguments : List String) : IO UInt32 := do
  let directory := (⟨[]⟩ : SwiftDecl.Path).resolve (← IO.currentDir).toString
  let seen ← (SwiftDecl.CommandLine.readPaths directory arguments).mapM SwiftDecl.see
  let result := SwiftDecl.CommandLine.run (SwiftDecl.treeOf seen) directory arguments
  (← IO.getStdout).putStr result.stdout
  (← IO.getStderr).putStr result.stderr
  match result.ending with
  | .exit code => return UInt32.ofNat code
  | .crash _ => return 1
