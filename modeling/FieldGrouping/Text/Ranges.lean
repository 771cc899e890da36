/-! Character classes given by closed ranges of code points. -/

set_option autoImplicit false

namespace FieldGrouping.Text

def inRanges (ranges : List (Nat × Nat)) (c : Char) : Bool :=
  ranges.any fun range => range.1 ≤ c.toNat && c.toNat ≤ range.2

end FieldGrouping.Text
