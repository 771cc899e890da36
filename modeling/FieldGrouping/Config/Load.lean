import FieldGrouping.Config.Document
import FieldGrouping.Config.Settings
import FieldGrouping.Files.Workspace
import FieldGrouping.Host

/-!
The configuration of a workspace. It is read from a file that is named, else from a file of the
tool's own in the root folder, else from the tool's table in the project file there. A file that
cannot be opened counts as empty.
-/

set_option autoImplicit false

namespace FieldGrouping.Config

open Files (Workspace)

def ownFileName : String := "schemalint.toml"

def projectFileName : String := "pyproject.toml"

/-- Why a configuration is not read: it is refused, or the file or its path is of no use. -/
inductive LoadFault where
  | refused (error : ConfigError)
  | undecodable (fault : Text.Utf8Fault)
  | nullInPath
  | tooLong (path : Path)
  | longInteger (digits : Nat)
  deriving DecidableEq, Repr

def longIntegerMessage (digits : Nat) : String :=
  "Exceeds the limit (" ++ toString Number.maxIntegerDigits ++
    " digits) for integer string conversion: value has " ++ toString digits ++
    " digits; use sys.set_int_max_str_digits() to increase the limit"

def LoadFault.message : LoadFault → String
  | .refused error => error.message
  | .undecodable fault => fault.message
  | .nullInPath => Files.nullInPathMessage
  | .tooLong path => Files.tooLongMessage path
  | .longInteger digits => longIntegerMessage digits

/-- The table that a file holds, empty if it cannot be opened. -/
def loadFile (host : Host) (workspace : Workspace) (path : Path) : Except LoadFault Table :=
  if path.hasNull then .error .nullInPath
  else
    match workspace.readText path with
    | .error (.undecodable fault) => .error (.undecodable fault)
    | .error _ => .ok []
    | .ok text =>
      match parseDocument text with
      | .ok table => .ok table
      | .error .malformed =>
        .error (.refused (.malformedDocument path (host.documentComplaint text)))
      | .error (.longInteger digits) => .error (.longInteger digits)

def loadNamed (host : Host) (workspace : Workspace) (path : Path) : Except LoadFault Table := do
  let table ← loadFile host workspace path
  return if path.name = projectFileName then toolTable table else table

def loadRoot (host : Host) (workspace : Workspace) (root : Path) : Except LoadFault Table :=
  let own := root.child ownFileName
  if workspace.refuses own then .error (.tooLong own)
  else if workspace.isFile own then loadFile host workspace own
  else (loadFile host workspace (root.child projectFileName)).map toolTable

/-- The configuration table. Without a root folder it is that of the working folder. -/
def load (host : Host) (workspace : Workspace) (root config : Option Path) :
    Except LoadFault Table :=
  match config with
  | some path => loadNamed host workspace path
  | none => loadRoot host workspace (root.getD workspace.directoryPath)

end FieldGrouping.Config
