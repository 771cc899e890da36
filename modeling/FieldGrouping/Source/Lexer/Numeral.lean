/-!
Numerals. A numeral in base ten has no zeros in front unless it is zero or has a fraction, an
exponent or the imaginary mark; an underscore stands only between two digits. A word may follow
a numeral without a space only if it is one of the operator words.
-/

set_option autoImplicit false

namespace FieldGrouping.Source.Lexer

def isHexDigit (c : Char) : Bool :=
  c.isDigit || ('a' ≤ c && c ≤ 'f') || ('A' ≤ c && c ≤ 'F')

def isOctalDigit (c : Char) : Bool :=
  '0' ≤ c && c ≤ '7'

def isBinaryDigit (c : Char) : Bool :=
  c == '0' || c == '1'

def isWordChar (c : Char) : Bool :=
  c.isAlphanum || c == '_' || 128 ≤ c.toNat

/-- Drops digits, single underscores between them allowed; `none` where an underscore is not
followed by a digit. -/
def dropDigits? (digit : Char → Bool) : List Char → Option (List Char)
  | '_' :: c :: cs => if digit c then dropDigits? digit cs else none
  | ['_'] => none
  | c :: cs => if digit c then dropDigits? digit cs else some (c :: cs)
  | [] => some []

def gluedWords : List (List Char) :=
  ["and".toList, "else".toList, "for".toList, "if".toList, "in".toList, "is".toList,
   "not".toList, "or".toList]

def endsNumeral (cs : List Char) : Bool :=
  match cs with
  | [] => true
  | c :: _ => !isWordChar c || gluedWords.any (·.isPrefixOf cs)

def finish? (imaginary : Bool) (cs : List Char) : Option (Bool × List Char) :=
  if endsNumeral cs then some (imaginary, cs) else none

def imaginaryPart? (cs : List Char) : Option (Bool × List Char) :=
  match cs with
  | 'j' :: rest => finish? true rest
  | 'J' :: rest => finish? true rest
  | _ => finish? false cs

/-- An exponent, if there is one, and what follows. A letter that no digits follow is not an
exponent but may begin an operator word. -/
def exponentPart? (cs : List Char) : Option (Bool × List Char) :=
  match cs with
  | e :: rest =>
    if e = 'e' ∨ e = 'E' then
      match rest with
      | s :: c :: after =>
        if s = '+' ∨ s = '-' then
          if c.isDigit then (dropDigits? Char.isDigit after).bind imaginaryPart? else none
        else if s.isDigit then (dropDigits? Char.isDigit (c :: after)).bind imaginaryPart?
        else finish? false cs
      | [s] => if s.isDigit then some (false, []) else if s = '+' ∨ s = '-' then none
          else finish? false cs
      | [] => finish? false cs
    else imaginaryPart? cs
  | [] => some (false, [])

def fractionPart? (cs : List Char) : Option (Bool × List Char) :=
  match cs with
  | c :: rest =>
    if c.isDigit then (dropDigits? Char.isDigit rest).bind exponentPart? else exponentPart? cs
  | [] => some (false, [])

def decimalPart? (cs : List Char) : Option (Bool × List Char) :=
  match cs with
  | '.' :: rest => fractionPart? rest
  | _ => exponentPart? cs

def based? (digit : Char → Bool) (cs : List Char) : Option (Bool × List Char) :=
  let cs := match cs with
    | '_' :: rest => rest
    | _ => cs
  match cs with
  | c :: rest =>
    if digit c then
      match dropDigits? digit rest with
      | some after =>
        if (after.head?.map Char.isDigit).getD false then none else finish? false after
      | none => none
    else none
  | [] => none

def afterZero? (cs : List Char) : Option (Bool × List Char) :=
  match cs with
  | [] => some (false, [])
  | c :: rest =>
    if c = 'x' ∨ c = 'X' then based? isHexDigit rest
    else if c = 'o' ∨ c = 'O' then based? isOctalDigit rest
    else if c = 'b' ∨ c = 'B' then based? isBinaryDigit rest
    else do
      let after ← dropDigits? Char.isDigit cs
      let (imaginary, rest) ← decimalPart? after
      let digits := cs.take (cs.length - after.length)
      let plain := rest.length == after.length
      if plain && digits.any (fun d => d != '0' && d != '_') then none
      else return (imaginary, rest)

def numeral? : List Char → Option (Bool × List Char)
  | '0' :: cs => afterZero? cs
  | '.' :: cs => fractionPart? cs
  | c :: cs =>
    if c.isDigit then (dropDigits? Char.isDigit cs).bind decimalPart? else none
  | [] => none

end FieldGrouping.Source.Lexer
