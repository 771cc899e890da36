import FieldGrouping.Files.Entry
import FieldGrouping.Text.Lines
import FieldGrouping.Text.Quoted
import FieldGrouping.Text.Utf8

/-!
A workspace is a tree from the root on and the folder in it that relative paths start from. A path
is followed part by part: two dots lead back to the folder that was entered last, and stay at the
root; every part but the last must be a folder. Long names and long paths are not followed at all.
-/

set_option autoImplicit false

namespace FieldGrouping.Files

/-- What the root holds, and the names that lead from there to the working folder. -/
structure Workspace where
  root : List Entry
  directory : List String

inductive PathFault where
  | missing
  | notFolder
  | tooLong
  deriving DecidableEq, Repr

-- Both limits count the bytes of UTF-8.
def nameLimit : Nat := 255

def pathLimit : Nat := 4095

/-- Follows names from an entry; `above` are the folders that were entered, the last one first. -/
def follow (above : List (List Entry)) (entry : Entry) : List String → Except PathFault Entry
  | [] => .ok entry
  | name :: names =>
    match entry with
    | .file _ _ => .error .notFolder
    | .folder own items =>
      if name = ".." then
        match above with
        -- What is above the root is the root.
        | [] => follow [] (.folder own items) names
        | outer :: rest => follow rest (.folder "" outer) names
      -- A name that no entry can have is a fault of its own.
      else if nameLimit < name.utf8ByteSize then .error .tooLong
      else
        match find? name items with
        | none => .error .missing
        | some inner => follow (items :: above) inner names

namespace Workspace

def directoryPath (workspace : Workspace) : Path :=
  ⟨"/" :: workspace.directory⟩

def namesFromRoot (workspace : Workspace) (path : Path) : List String :=
  if path.isAbsolute then path.names else workspace.directory ++ path.names

def locate (workspace : Workspace) (path : Path) : Except PathFault Entry :=
  if pathLimit < path.text.utf8ByteSize then .error .tooLong
  else follow [] (.folder "" workspace.root) (workspace.namesFromRoot path)

def folder? (workspace : Workspace) (path : Path) : Option (List Entry) :=
  match workspace.locate path with
  | .ok (.folder _ items) => if path.hasNull then none else some items
  | _ => none

def isFile (workspace : Workspace) (path : Path) : Bool :=
  match workspace.locate path with
  | .ok (.file _ _) => !path.hasNull
  | _ => false

/-- Whether asking what a path leads to is a fault of its own, not just no answer. -/
def refuses (workspace : Workspace) (path : Path) : Bool :=
  !path.hasNull && workspace.locate path matches .error .tooLong

end Workspace

def nullInPathMessage : String := "embedded null byte"

def tooLongMessage (path : Path) : String :=
  "[Errno 36] File name too long: " ++ Text.quoted path.text

inductive ReadFault where
  | missing
  | notFolder
  | isFolder
  | tooLong
  | undecodable (fault : Text.Utf8Fault)
  deriving DecidableEq, Repr

def ReadFault.message (path : Path) : ReadFault → String
  | .missing => "[Errno 2] No such file or directory: " ++ Text.quoted path.text
  | .notFolder => "[Errno 20] Not a directory: " ++ Text.quoted path.text
  | .isFolder => "[Errno 21] Is a directory: " ++ Text.quoted path.text
  | .tooLong => tooLongMessage path
  | .undecodable fault => fault.message

def PathFault.toReadFault : PathFault → ReadFault
  | .missing => .missing
  | .notFolder => .notFolder
  | .tooLong => .tooLong

def Workspace.readText (workspace : Workspace) (path : Path) : Except ReadFault String :=
  match workspace.locate path with
  | .error fault => .error fault.toReadFault
  | .ok (.folder _ _) => .error .isFolder
  | .ok (.file _ bytes) =>
    match Text.decodeUtf8 bytes with
    | .error fault => .error (.undecodable fault)
    | .ok text => .ok (String.ofList (Text.unifyNewlines text.toList))

end FieldGrouping.Files
