import FieldGrouping.Source.Token

/-!
Strings as written: the letters in front, the quotes, and the characters between them up to the
first closing quotes that no backslash hides.
-/

set_option autoImplicit false

namespace FieldGrouping.Source.Lexer

structure StringKind where
  bytes : Bool := false
  unicode : Bool := false
  raw : Bool := false
  format : Bool := false
  deriving DecidableEq, Repr

def StringKind.add? (kind : StringKind) (c : Char) : Option StringKind :=
  match c.toLower with
  | 'b' => if kind.bytes || kind.unicode || kind.format then none
      else some { kind with bytes := true }
  | 'u' => if kind.bytes || kind.unicode || kind.raw || kind.format then none
      else some { kind with unicode := true }
  | 'r' => if kind.raw || kind.unicode then none else some { kind with raw := true }
  | 'f' => if kind.format || kind.bytes || kind.unicode then none
      else some { kind with format := true }
  | _ => none

def stringKind? (kind : StringKind) (letters : List Char) :
    List Char → Option (StringKind × List Char × List Char)
  | [] => none
  | c :: cs =>
    if c = '"' ∨ c = '\'' then some (kind, letters.reverse, c :: cs)
    else
      match kind.add? c with
      | some kind => stringKind? kind (c :: letters) cs
      | none => none

/-- The characters up to the closing quotes and those after them. A string in single quotes does
not go over the end of a line, unless a backslash stands there. -/
def bodyFrom? (quote : Char) (triple : Bool) (done : List Char) :
    List Char → Option (List Char × List Char)
  | [] => none
  | '\\' :: c :: cs => bodyFrom? quote triple (c :: '\\' :: done) cs
  | c :: cs =>
    if c = quote then
      if triple then
        if cs.take 2 == [quote, quote] then some (done.reverse, cs.drop 2)
        else bodyFrom? quote triple (c :: done) cs
      else some (done.reverse, cs)
    else if c = '\n' && !triple then none
    else bodyFrom? quote triple (c :: done) cs

def quotation? : List Char → Option (List Char × List Char × List Char)
  | [] => none
  | quote :: cs =>
    if cs.take 2 == [quote, quote] then
      (bodyFrom? quote true [] (cs.drop 2)).map fun r => ([quote, quote, quote], r.1, r.2)
    else (bodyFrom? quote false [] cs).map fun r => ([quote], r.1, r.2)

end FieldGrouping.Source.Lexer
