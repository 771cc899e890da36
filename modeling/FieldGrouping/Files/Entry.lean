import FieldGrouping.Files.Path

/-!
Files and folders as a tree. A folder holds its entries under distinct names; their order does not
count.
-/

set_option autoImplicit false

namespace FieldGrouping.Files

inductive Entry where
  | file (name : String) (bytes : List UInt8)
  | folder (name : String) (items : List Entry)
  deriving Inhabited

def Entry.name : Entry → String
  | .file name _ => name
  | .folder name _ => name

def find? (name : String) (items : List Entry) : Option Entry :=
  items.find? (·.name == name)

mutual

/-- The paths of the files below a folder at a path. Folders of excluded names are left out. -/
def filesBelow (excluded : String → Bool) (path : Path) : List Entry → List Path
  | [] => []
  | item :: rest => item.files excluded path ++ filesBelow excluded path rest

/-- The paths of an entry of a folder at a path: its own if it is a file, else of those below. -/
def Entry.files (excluded : String → Bool) (path : Path) : Entry → List Path
  | .file name _ => [path.child name]
  | .folder name items => if excluded name then [] else filesBelow excluded (path.child name) items

end

def put (entry : Entry) (items : List Entry) : List Entry :=
  entry :: items.filter (·.name != entry.name)

def itemsOf (name : String) (items : List Entry) : List Entry :=
  match find? name items with
  | some (.folder _ inner) => inner
  | _ => []

def place (entry : Entry) : List String → List Entry → List Entry
  | [], items => put entry items
  | name :: names, items => put (.folder name (place entry names (itemsOf name items))) items

def makeFolder : List String → List Entry → List Entry
  | [], items => items
  | name :: names, items => put (.folder name (makeFolder names (itemsOf name items))) items

end FieldGrouping.Files
