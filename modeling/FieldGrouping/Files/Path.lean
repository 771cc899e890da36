import FieldGrouping.Text.Blank

/-!
Paths as lists of parts. An absolute path begins with the part `/`, or `//` where exactly two
slashes stand in front. Empty parts and single dots are dropped, double dots are kept. Paths are
ordered by their parts, so that what is below a folder stands together.
-/

set_option autoImplicit false

namespace FieldGrouping

structure Path where
  parts : List String
  deriving DecidableEq, Repr

namespace Path

instance : LT Path :=
  ⟨fun a b => a.parts < b.parts⟩

instance : DecidableLT Path :=
  fun a b => inferInstanceAs (Decidable (a.parts < b.parts))

def properParts (cs : List Char) : List String :=
  ((Text.splitChars '/' cs).map String.ofList).filter fun part => part ≠ "" ∧ part ≠ "."

def ofString (text : String) : Path :=
  let cs := text.toList
  match cs with
  | '/' :: '/' :: '/' :: _ => ⟨"/" :: properParts cs⟩
  | '/' :: '/' :: _ => ⟨"//" :: properParts cs⟩
  | '/' :: _ => ⟨"/" :: properParts cs⟩
  | _ => ⟨properParts cs⟩

/-- The written form; the empty path is a dot. -/
def text (path : Path) : String :=
  match path.parts with
  | [] => "."
  | first :: names =>
    if first = "/" ∨ first = "//" then first ++ "/".intercalate names
    else "/".intercalate (first :: names)

instance : ToString Path :=
  ⟨text⟩

def child (path : Path) (name : String) : Path :=
  ⟨path.parts ++ [name]⟩

def isAbsolute (path : Path) : Bool :=
  path.parts.head? = some "/" || path.parts.head? = some "//"

def names (path : Path) : List String :=
  if path.isAbsolute then path.parts.tail else path.parts

def name (path : Path) : String :=
  path.names.getLast?.getD ""

/-- The end of a name from its last dot on, unless the dot is the first or the last character. -/
def suffixOf (name : String) : String :=
  let cs := name.toList
  let stem := (cs.reverse.dropWhile (· != '.')).drop 1
  let ending := cs.reverse.takeWhile (· != '.')
  if stem.isEmpty || ending.isEmpty then "" else String.ofList ('.' :: ending.reverse)

def suffix (path : Path) : String :=
  suffixOf path.name

def hasNull (path : Path) : Bool :=
  path.parts.any fun part => part.toList.contains '\x00'

end Path

end FieldGrouping
