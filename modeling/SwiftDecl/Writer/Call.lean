import SwiftDecl.Declaration.Layout
import SwiftDecl.Writer.Bounded

/-!
# Calls of a writer

A writer is asked for texts, for blocks of code, as they are or as documentation, for the parts of
headers, for declarations, and for changes of its level. A call that fails leaves what it has
written so far; only a level that cannot be lowered stays as it is.
-/

namespace SwiftDecl

/-- A call of a writer. -/
inductive WriterCall where
  | emit (s : String)
  | code (c : Code)
  | doc (c : Code)
  | attributes (attributes : List Attribute) (oneLine : Bool)
  | modifiers (modifiers implied : ModifierSet)
  | typeVariables (typeVariables : List TypeVariable)
  | type (t : TypeName)
  | function (f : FunctionDecl) (implied : ModifierSet) (concise : Bool)
  | typeDecl (t : TypeDecl) (implied : ModifierSet)
  | indent (levels : Int)
  | unindent (levels : Int)

/-- The layout that a call writes. A change of the level writes nothing. -/
def WriterCall.layout : WriterCall → Layout
  | emit s => [.text s]
  | code c => c.layout
  | doc c => docLayout c c.layout
  | attributes items oneLine => attributesLayout items oneLine
  | modifiers own implied => modifiersLayout own implied
  | typeVariables vs => typeVariablesLayout vs
  | type t => [.text t.text]
  | function f implied concise => f.layout implied concise
  | typeDecl t implied => t.layout implied
  | indent _ => []
  | unindent _ => []

namespace Writer

/-- Makes a call. The result is the writer after it, and the fault if the call fails. -/
def call (w : Writer) : WriterCall → Writer × Option WriteFault
  | .indent levels => (w.indent levels, none)
  | .unindent levels =>
    match w.unindent levels with
    | .ok next => (next, none)
    | .error fault => (w, some (.layout fault))
  | c => w.writeBounded c.layout

/-- Makes calls one after the other, failed or not. -/
def session (w : Writer) (calls : List WriterCall) : Writer :=
  calls.foldl (fun w c => (w.call c).1) w

end Writer

end SwiftDecl
