import FieldGrouping.Files.Path

/-!
Declared fields and types. A location is a place in a source, or a handle that says where a field
comes from without being a place.
-/

set_option autoImplicit false

namespace FieldGrouping

/-- A place in a source and the type that is declared there. Lines and columns count from one. -/
structure Place where
  path : Path
  line : Int
  column : Int
  typeName : String
  deriving DecidableEq, Repr

inductive Location where
  | place (p : Place)
  | handle (label : Option String)
  deriving DecidableEq, Repr

def handleText (label : Option String) : String :=
  label.getD "None"

structure Field where
  name : String
  location : Location
  deriving DecidableEq, Repr

structure TypeDeclaration where
  name : String
  place : Place
  fields : List Field
  deriving DecidableEq, Repr

end FieldGrouping
