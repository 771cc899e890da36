/-!
Lines of a text. `unifyNewlines` brings the three ways to end a line to one; `lines` cuts a text
wherever any character that separates lines occurs, which are more than end a line of source.
-/

set_option autoImplicit false

namespace FieldGrouping.Text

/-- Writes a carriage return, alone or before a line feed, as one line feed. -/
def unifyNewlines : List Char → List Char
  | '\r' :: '\n' :: cs => '\n' :: unifyNewlines cs
  | '\r' :: cs => '\n' :: unifyNewlines cs
  | c :: cs => c :: unifyNewlines cs
  | [] => []

/-- Characters that separate lines: line feed, tabulation and form controls, three information
separators, next line, line separator and paragraph separator. -/
def isLineBreak (c : Char) : Bool :=
  [0x0A, 0x0B, 0x0C, 0x0D, 0x1C, 0x1D, 0x1E, 0x85, 0x2028, 0x2029].contains c.toNat

/-- Cuts at every line break; `line` holds the present line backwards. A line feed right after a
carriage return belongs to the same break, and no empty line follows the last break. -/
def linesFrom (line : List Char) : List Char → List (List Char)
  | [] => if line.isEmpty then [] else [line.reverse]
  | '\r' :: '\n' :: cs => line.reverse :: linesFrom [] cs
  | c :: cs =>
    if isLineBreak c then line.reverse :: linesFrom [] cs
    else linesFrom (c :: line) cs

def lines (text : String) : List String :=
  (linesFrom [] text.toList).map String.ofList

example : lines "a\r\nb \rc\n" = ["a", "b", "", "c"] := by decide +kernel

end FieldGrouping.Text
