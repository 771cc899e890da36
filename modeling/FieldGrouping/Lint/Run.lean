import FieldGrouping.Files.Discovery
import FieldGrouping.Lint.Directive

/-!
A run over files. The findings go from file to file, and a file that there is no reader for, that
cannot be read or is not well formed hands them on early. A few faults end a run.
-/

set_option autoImplicit false

namespace FieldGrouping.Lint

open Files (Workspace ReadFault discover)
open Source (Registry Reader LiteralFault)

def isSilenced (lines : List String) (diagnostic : Diagnostic) : Bool :=
  match diagnostic.location with
  | .place p => silences lines p.line diagnostic.rule
  | .handle _ => false

def unsilenced (lines : List String) (typeLine : Int) (found : List Diagnostic) :
    List Diagnostic :=
  if lines.isEmpty then found
  else if silences lines typeLine ruleName then []
  else found.filter fun diagnostic => !isSilenced lines diagnostic

def lintType (settings : Settings) (lines : List String) (type : TypeDeclaration) :
    Except CheckFault (List Diagnostic) :=
  (diagnostics type.fields settings.rule).map (unsilenced lines type.place.line)

inductive FailureCause where
  | unreadable (fault : ReadFault)
  | malformed (complaint : String)
  deriving DecidableEq, Repr

structure Failure where
  path : Path
  cause : FailureCause
  deriving DecidableEq, Repr

def malformedMessage (complaint : String) : String :=
  "LibCST parse failed: " ++ complaint

def Failure.message (failure : Failure) : String :=
  match failure.cause with
  | .unreadable fault => fault.message failure.path
  | .malformed complaint => malformedMessage complaint

inductive RunFault where
  | tooLong (path : Path)
  | nullInPath
  | literal (fault : LiteralFault)
  | check (fault : CheckFault)
  deriving DecidableEq, Repr

def RunFault.message : RunFault → String
  | .tooLong path => Files.tooLongMessage path
  | .nullInPath => Files.nullInPathMessage
  | .literal fault => fault.message
  | .check fault => fault.message

structure Findings where
  diagnostics : List Diagnostic
  failures : List Failure
  files : Nat
  types : Nat
  deriving DecidableEq, Repr

namespace Findings

def empty : Findings :=
  ⟨[], [], 0, 0⟩

def addFailure (findings : Findings) (failure : Failure) : Findings :=
  { findings with failures := findings.failures ++ [failure] }

def addFile (findings : Findings) : Findings :=
  { findings with files := findings.files + 1 }

def addType (findings : Findings) (found : List Diagnostic) : Findings :=
  { findings with
    diagnostics := findings.diagnostics ++ found
    types := findings.types + 1 }

end Findings

def lintTypes (settings : Settings) (lines : List String) (findings : Findings) :
    List TypeDeclaration → Except RunFault Findings
  | [] => .ok findings
  | type :: types =>
    match lintType settings lines type with
    | .error fault => .error (.check fault)
    | .ok found => lintTypes settings lines (findings.addType found) types

def lintText (reader : Reader) (settings : Settings) (findings : Findings) (path : Path)
    (text : String) : Except RunFault Findings :=
  match reader.read path settings.recognition text with
  | .error (.malformed complaint) => .ok (findings.addFailure ⟨path, .malformed complaint⟩)
  | .error (.literal fault) => .error (.literal fault)
  -- The file counts before its types do.
  | .ok types => lintTypes settings (Text.lines text) findings.addFile types

def lintFile (workspace : Workspace) (registry : Registry Reader) (settings : Settings)
    (findings : Findings) (path : Path) : Except RunFault Findings :=
  match registry.forExtension? path.suffix with
  | none => .ok findings
  | some reader =>
    if path.hasNull then .error .nullInPath
    else
      match workspace.readText path with
      | .error fault => .ok (findings.addFailure ⟨path, .unreadable fault⟩)
      | .ok text => lintText reader settings findings path text

def lintPaths (workspace : Workspace) (registry : Registry Reader) (settings : Settings)
    (paths : List Path) : Except RunFault Findings :=
  match discover workspace registry settings paths with
  | .error refused => .error (.tooLong refused.path)
  | .ok found => found.foldlM (lintFile workspace registry settings) .empty

end FieldGrouping.Lint
