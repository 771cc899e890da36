/-!
What is taken from the system that the linter runs on: the names of characters, and what its
readers say of a text that is not well formed.
-/

set_option autoImplicit false

namespace FieldGrouping

structure Host where
  characterNamed? : String → Option Char
  sourceComplaint : String → String
  documentComplaint : String → String
  deriving Inhabited

end FieldGrouping
