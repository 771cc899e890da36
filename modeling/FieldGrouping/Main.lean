import FieldGrouping.Command.Run

/-! The program: it reads the files that its words name and runs a command on them. -/

set_option autoImplicit false

namespace FieldGrouping

open Files (Entry Workspace)

/-! ### Files -/

/-- An entry of a folder with all that is below it. What cannot be read is left out. -/
partial def readEntry (entry : IO.FS.DirEntry) : IO (Option Entry) := do
  try
    if ← entry.path.isDir then
      let items ← (← entry.path.readDir).toList.filterMapM readEntry
      return some (.folder entry.fileName items)
    else
      let bytes ← IO.FS.readBinFile entry.path
      return some (.file entry.fileName bytes.toList)
  catch _ => return none

def folderNames? (path : Path) : IO (Option (List String)) := do
  try
    let place ← IO.FS.realPath path.text
    return if ← place.isDir then some (Path.ofString place.toString).names else none
  catch _ => return none

/-- Adds what a path leads to, and the folders on the way. -/
def addPath (workspace : Workspace) (path : Path) : IO Workspace := do
  let mut root := workspace.root
  for count in List.range (path.parts.length + 1) do
    if let some names ← folderNames? ⟨path.parts.take count⟩ then
      root := Files.makeFolder names root
  let around := (← folderNames? path).getD
    (((← folderNames? ⟨path.parts.dropLast⟩).getD workspace.directory) ++ [path.name])
  if let some name := around.getLast? then
    let folder := (Path.mk ("/" :: around.dropLast)).text
    if let some entry ← readEntry ⟨folder, name⟩ then
      root := Files.place entry around.dropLast root
  return { workspace with root := root }

def configPaths (source : Command.ConfigSource) : List Path :=
  source.config.toList ++
    [source.root.child Config.ownFileName, source.root.child Config.projectFileName]

def pathsIn (words : List String) : List Path :=
  match Command.request words with
  | .ok (.check request) => configPaths request.source ++ Command.checkedPaths request
  | .ok (.explain source) => configPaths source
  | _ => []

def currentWorkspace (words : List String) : IO Workspace := do
  let directory := (Path.ofString (← IO.currentDir).toString).names
  (pathsIn words).foldlM addPath ⟨Files.makeFolder directory [], directory⟩

/-! ### Character names -/

/-- Where a table of character names may be, one on a line: a code point, a semicolon, a name and
another semicolon. -/
def characterTablePath : String := "/usr/share/unicode/UnicodeData.txt"

def characterOn? (name line : String) : Option Char :=
  match line.splitOn ";" with
  | code :: found :: _ =>
    if found = name then
      (Source.Literal.hexTail? 0 code.length code.toList).map fun value => Char.ofNat value.1
    else none
  | _ => none

def currentHost : IO Host := do
  let table ← try IO.FS.readFile characterTablePath catch _ => pure ""
  return {
    characterNamed? := fun name => (table.splitOn "\n").findSome? (characterOn? name.toUpper)
    sourceComplaint := fun _ => "the source is not well formed"
    documentComplaint := fun _ => "the document is not well formed" }

def runProgram (words : List String) : IO UInt32 := do
  match Command.run (← currentHost) (← currentWorkspace words) words with
  | .ok outcome =>
    IO.print outcome.stdout
    IO.eprint outcome.stderr
    return outcome.exit.toUInt32
  | .error fault =>
    IO.eprintln fault.message
    return fault.exit.toUInt32

end FieldGrouping

def main (words : List String) : IO UInt32 :=
  FieldGrouping.runProgram words
