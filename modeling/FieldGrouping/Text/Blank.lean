import FieldGrouping.Text.Ranges

/-!
Blank characters, trimming and lists written with commas. A comma list keeps its pieces trimmed
and leaves the empty ones out.
-/

set_option autoImplicit false

namespace FieldGrouping.Text

/-- The blank characters: the ASCII ones, four information separators and the spaces of other
scripts. A zero-width space is not blank. -/
def blankRanges : List (Nat × Nat) :=
  [(0x09, 0x0D), (0x1C, 0x20), (0x85, 0x85), (0xA0, 0xA0), (0x1680, 0x1680), (0x2000, 0x200A),
   (0x2028, 0x2029), (0x202F, 0x202F), (0x205F, 0x205F), (0x3000, 0x3000)]

def isBlank (c : Char) : Bool :=
  inRanges blankRanges c

def trimChars (cs : List Char) : List Char :=
  ((cs.dropWhile isBlank).reverse.dropWhile isBlank).reverse

/-- Cuts a text at every occurrence of a character; `n` occurrences give `n + 1` pieces. -/
def splitChars (separator : Char) : List Char → List (List Char)
  | [] => [[]]
  | c :: cs =>
    if c = separator then [] :: splitChars separator cs
    else
      match splitChars separator cs with
      | [] => [[c]]
      | piece :: pieces => (c :: piece) :: pieces

theorem splitChars_ne_nil (separator : Char) (cs : List Char) :
    splitChars separator cs ≠ [] := by
  cases cs with
  | nil => simp [splitChars]
  | cons c cs =>
    simp only [splitChars]
    split
    · simp
    · split <;> simp

def trim (text : String) : String :=
  String.ofList (trimChars text.toList)

def trimAll (texts : List String) : List String :=
  (texts.map trim).filter (· ≠ "")

def commaList (text : String) : List String :=
  trimAll ((splitChars ',' text.toList).map String.ofList)

end FieldGrouping.Text
