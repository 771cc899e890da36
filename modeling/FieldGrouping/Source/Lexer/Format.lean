/-!
Fields of format strings. A field stands between braces: an expression, perhaps an equals sign, a
conversion and a format that may have fields of its own, one level deep. Doubled braces stand for
themselves. Only the expressions are of interest here.
-/

set_option autoImplicit false

namespace FieldGrouping.Source.Lexer

structure InnerQuote where
  quote : Char
  triple : Bool

def closerOf? (c : Char) : Option Char :=
  if c = '(' then some ')' else if c = '[' then some ']' else if c = '\x7b' then some '\x7d'
  else none

/-- The expression of a field, read up to the sign that ends it: a brace, a colon, an exclamation
mark or an equals sign outside of all brackets and strings. Backslashes and number signs are
refused. The result is the expression and the characters from the ending sign on. -/
def fieldExpression? (inner : Option InnerQuote) (open_ : List Char) (done : List Char) :
    Nat → List Char → Option (List Char × List Char)
  | 0, _ => none
  | _ + 1, [] => none
  | fuel + 1, c :: cs =>
    if c = '\\' then none
    else
      match inner with
      | some q =>
        if c = q.quote then
          if !q.triple then fieldExpression? none open_ (c :: done) fuel cs
          else if cs.take 2 == [c, c] then
            fieldExpression? none open_ (c :: c :: c :: done) fuel (cs.drop 2)
          else fieldExpression? inner open_ (c :: done) fuel cs
        else fieldExpression? inner open_ (c :: done) fuel cs
      | none =>
        if c = '"' ∨ c = '\'' then
          if cs.take 2 == [c, c] then
            fieldExpression? (some ⟨c, true⟩) open_ (c :: c :: c :: done) fuel (cs.drop 2)
          else fieldExpression? (some ⟨c, false⟩) open_ (c :: done) fuel cs
        else if c = '#' then none
        else
          match closerOf? c with
          | some closer => fieldExpression? none (closer :: open_) (c :: done) fuel cs
          | none =>
            match open_ with
            | closer :: outer =>
              if c = closer then fieldExpression? none outer (c :: done) fuel cs
              else if c = ')' ∨ c = ']' ∨ c = '\x7d' then none
              else fieldExpression? none open_ (c :: done) fuel cs
            | [] =>
              if (c = '!' ∨ c = '=' ∨ c = '<' ∨ c = '>') ∧ cs.head? = some '=' then
                fieldExpression? none open_ ('=' :: c :: done) fuel (cs.drop 1)
              else if c = '!' ∨ c = ':' ∨ c = '\x7d' ∨ c = '=' then some (done.reverse, c :: cs)
              else if c = ')' ∨ c = ']' then none
              else fieldExpression? none open_ (c :: done) fuel cs

/-- Blanks that may follow an equals sign and that an expression must not be made of alone. -/
def isFieldBlank (c : Char) : Bool :=
  c == ' ' || (9 ≤ c.toNat && c.toNat ≤ 13)

def skipEquals : List Char → List Char
  | '=' :: cs => cs.dropWhile isFieldBlank
  | cs => cs

def skipConversion? (cs : List Char) : Option (List Char) :=
  match cs with
  | '!' :: c :: rest =>
    if (c = 's' ∨ c = 'r' ∨ c = 'a') ∧ (rest.head? = some ':' ∨ rest.head? = some '\x7d') then
      some rest
    else none
  | '!' :: _ => none
  | _ => some cs

def skipCharName (cs : List Char) : List Char :=
  match cs with
  | '\x7b' :: rest => (rest.dropWhile (· != '\x7d')).drop 1
  | _ => cs

/-- The expressions of the fields in the text of a format string, and what is left. At level zero
the text ends with the string; in the format of a field it ends before the closing brace. -/
def fieldsFrom? (raw : Bool) : Nat → Nat → List Char → Option (List (List Char) × List Char)
  | 0, _, _ => none
  | _ + 1, level, [] => if level = 0 then some ([], []) else none
  | fuel + 1, level, c :: cs =>
    if c = '\\' && !raw then
      match cs with
      | 'N' :: rest => fieldsFrom? raw fuel level (skipCharName rest)
      | d :: rest =>
        if d = '\x7b' ∨ d = '\x7d' then fieldsFrom? raw fuel level cs
        else fieldsFrom? raw fuel level rest
      | [] => fieldsFrom? raw fuel level cs
    else if c = '\x7b' then
      if level = 0 && cs.head? == some '\x7b' then fieldsFrom? raw fuel level (cs.drop 1)
      else if 2 ≤ level then none
      else do
        let (expression, rest) ← fieldExpression? none [] [] (cs.length + 1) cs
        if expression.all isFieldBlank then none
        else
          let rest ← skipConversion? (skipEquals rest)
          let (inner, rest) ← match rest with
            | ':' :: format => fieldsFrom? raw fuel (level + 1) format
            | _ => some ([], rest)
          match rest with
          | '\x7d' :: rest =>
            let (later, rest) ← fieldsFrom? raw fuel level rest
            return (expression :: (inner ++ later), rest)
          | _ => none
    else if c = '\x7d' then
      if level = 0 then
        if cs.head? == some '\x7d' then fieldsFrom? raw fuel level (cs.drop 1) else none
      else some ([], c :: cs)
    else fieldsFrom? raw fuel level cs

def formatFields? (raw : Bool) (body : List Char) : Option (List (List Char)) :=
  (fieldsFrom? raw (body.length + 1) 0 body).map (·.1)

end FieldGrouping.Source.Lexer
