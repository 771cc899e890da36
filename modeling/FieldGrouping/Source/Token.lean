/-!
Tokens of Python source. Words carry their place, because names of types and fields are reported
by it; of other tokens only what they are counts. A format string is a bracketed run of tokens:
its start, each of its fields as a field mark with the tokens of the field's expression in
parentheses, and its end.
-/

set_option autoImplicit false

namespace FieldGrouping.Source

/-- A place in a text; lines and columns count from one. -/
structure Mark where
  line : Nat
  column : Nat
  deriving DecidableEq, Repr

def Mark.after (mark : Mark) (cs : List Char) : Mark :=
  cs.foldl (fun m c => if c = '\n' then ⟨m.line + 1, 1⟩ else ⟨m.line, m.column + 1⟩) mark

structure Literal where
  raw : Bool
  bytes : Bool
  body : List Char
  deriving DecidableEq, Repr

structure Word where
  text : String
  mark : Mark
  deriving DecidableEq, Repr

inductive Token where
  | word (w : Word)
  | number (imaginary : Bool)
  | literal (l : Literal)
  | formatStart
  | formatField
  | formatEnd
  | sign (text : String)
  | newline
  | indent
  | dedent
  deriving DecidableEq, Repr

def keywords : List String :=
  ["False", "None", "True", "and", "as", "assert", "async", "await", "break", "class", "continue",
   "def", "del", "elif", "else", "except", "finally", "for", "from", "global", "if", "import",
   "in", "is", "lambda", "nonlocal", "not", "or", "pass", "raise", "return", "try", "while",
   "with", "yield"]

/-- Signs of three, two and one characters; the longest that fits is taken. -/
def signs : List String :=
  ["**=", "//=", ">>=", "<<=", "...",
   "!=", "%=", "&=", "**", "*=", "+=", "-=", "->", "//", "/=", ":=", "<<", "<=", "==", ">=", ">>",
   "@=", "^=", "|=",
   "%", "&", "(", ")", "*", "+", ",", "-", ".", "/", ":", ";", "<", "=", ">", "@", "[", "]", "^",
   "\x7b", "|", "\x7d", "~"]

end FieldGrouping.Source
