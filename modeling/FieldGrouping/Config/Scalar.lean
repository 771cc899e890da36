import FieldGrouping.Config.Value
import FieldGrouping.Number.Integer

/-!
Scalars of a TOML document. A reader takes the characters from its place on and gives the value
with the characters after it, or nothing where the form does not begin there.
-/

set_option autoImplicit false

namespace FieldGrouping.Config

/-- Why a text is not a document. Integers are read up to a number of digits. -/
inductive DocumentFault where
  | malformed
  | longInteger (digits : Nat)
  deriving DecidableEq, Repr

def isSpace (c : Char) : Bool :=
  c == ' ' || c == '\t'

def isControl (c : Char) : Bool :=
  c.toNat < 32 || c.toNat == 127

def skipSpaces (cs : List Char) : List Char :=
  cs.dropWhile isSpace

def decimalDigit? (c : Char) : Option Nat :=
  if '0' ≤ c ∧ c ≤ '9' then some (c.toNat - 48) else none

def hexDigit? (c : Char) : Option Nat :=
  if '0' ≤ c ∧ c ≤ '9' then some (c.toNat - 48)
  else if 'a' ≤ c ∧ c ≤ 'f' then some (c.toNat - 87)
  else if 'A' ≤ c ∧ c ≤ 'F' then some (c.toNat - 55)
  else none

/-- Reads exactly `count` digits, after the value `so far`. -/
def fixedDigits? (base : Nat) (digit? : Char → Option Nat) (value : Nat) :
    Nat → List Char → Option (Nat × List Char)
  | 0, cs => some (value, cs)
  | _ + 1, [] => none
  | count + 1, c :: cs =>
    match digit? c with
    | some d => fixedDigits? base digit? (value * base + d) count cs
    | none => none

def twoDigits? (low high : Nat) (cs : List Char) : Option (Nat × List Char) :=
  match fixedDigits? 10 decimalDigit? 0 2 cs with
  | some (n, rest) => if low ≤ n ∧ n ≤ high then some (n, rest) else none
  | none => none

def char? (c : Char) : List Char → Option (List Char)
  | [] => none
  | d :: cs => if d = c then some cs else none

/-! ### Dates and times -/

def date? (cs : List Char) : Option (Date × List Char) := do
  let (year, cs) ← fixedDigits? 10 decimalDigit? 0 4 cs
  let cs ← char? '-' cs
  let (month, cs) ← twoDigits? 1 12 cs
  let cs ← char? '-' cs
  let (day, cs) ← twoDigits? 1 31 cs
  return (⟨year, month, day⟩, cs)

def spanDigits (cs : List Char) : List Nat × List Char :=
  (cs.takeWhile (decimalDigit? · |>.isSome) |>.filterMap decimalDigit?,
    cs.dropWhile (decimalDigit? · |>.isSome))

/-- A time of day. Of the places after the seconds six count, the others are dropped. -/
def timeOfDay? (cs : List Char) : Option (TimeOfDay × List Char) := do
  let (hour, cs) ← twoDigits? 0 23 cs
  let cs ← char? ':' cs
  let (minute, cs) ← twoDigits? 0 59 cs
  let cs ← char? ':' cs
  let (second, cs) ← twoDigits? 0 59 cs
  match cs with
  | '.' :: places =>
    match spanDigits places with
    | ([], _) => return (⟨hour, minute, second, 0⟩, cs)
    | (digits, rest) =>
      return (⟨hour, minute, second, Number.ofDigits ((digits ++ List.replicate 6 0).take 6)⟩, rest)
  | _ => return (⟨hour, minute, second, 0⟩, cs)

/-- An offset in minutes: `Z`, or hours and minutes after a sign. -/
def offset? : List Char → Option (Int × List Char)
  | [] => none
  | c :: cs =>
    if c = 'Z' ∨ c = 'z' then some (0, cs)
    else if c = '+' ∨ c = '-' then do
      let (hours, cs) ← twoDigits? 0 23 cs
      let cs ← char? ':' cs
      let (minutes, cs) ← twoDigits? 0 59 cs
      let total : Int := hours * 60 + minutes
      return (if c = '-' then -total else total, cs)
    else none

def dateOrMoment? (cs : List Char) : Option (Value × List Char) := do
  let (date, rest) ← date? cs
  match rest with
  | separator :: after =>
    if separator = 'T' ∨ separator = 't' ∨ separator = ' ' then
      match timeOfDay? after with
      | some (time, rest) =>
        match offset? rest with
        | some (offset, rest) => return (.moment ⟨date, time, some offset⟩, rest)
        | none => return (.moment ⟨date, time, none⟩, rest)
      | none => return (.date date, rest)
    else return (.date date, rest)
  | [] => return (.date date, rest)

def Value.dateIsValid : Value → Bool
  | .date d => d.isValid
  | .moment m => m.date.isValid
  | _ => true

/-! ### Numbers -/

def digitsTail (digit? : Char → Option Nat) : List Char → List Nat × List Char
  | '_' :: c :: cs =>
    match digit? c with
    | some d => let (ds, rest) := digitsTail digit? cs; (d :: ds, rest)
    | none => ([], '_' :: c :: cs)
  | c :: cs =>
    match digit? c with
    | some d => let (ds, rest) := digitsTail digit? cs; (d :: ds, rest)
    | none => ([], c :: cs)
  | [] => ([], [])

def digits? (digit? : Char → Option Nat) : List Char → Option (List Nat × List Char)
  | [] => none
  | c :: cs => do
    let d ← digit? c
    let (ds, rest) := digitsTail digit? cs
    return (d :: ds, rest)

def digitBelow? (base : Nat) (c : Char) : Option Nat :=
  (hexDigit? c).bind fun d => if d < base then some d else none

def basedInteger? : List Char → Option (Nat × List Char)
  | '0' :: mark :: cs => do
    let base ← if mark = 'x' then some 16 else if mark = 'b' then some 2
      else if mark = 'o' then some 8 else none
    let (ds, rest) ← digits? (digitBelow? base) cs
    return (ds.foldl (fun n d => n * base + d) 0, rest)
  | _ => none

def sign : List Char → Bool × List Char
  | '-' :: cs => (true, cs)
  | '+' :: cs => (false, cs)
  | cs => (false, cs)

/-- The part of a decimal number before the point: no zero stands in front. -/
def wholeDigits? : List Char → Option (List Nat × List Char)
  | '0' :: cs => some ([0], cs)
  | cs => digits? decimalDigit? cs

def fraction? : List Char → Option (List Nat × List Char)
  | '.' :: cs => digits? decimalDigit? cs
  | _ => none

def exponent? : List Char → Option (Int × List Char)
  | [] => none
  | c :: cs =>
    if c = 'e' ∨ c = 'E' then do
      let (negative, cs) := sign cs
      let (ds, rest) ← digits? decimalDigit? cs
      return (if negative then -(Number.ofDigits ds : Int) else Number.ofDigits ds, rest)
    else none

def decimalNumber? (cs : List Char) :
    Option (Except DocumentFault Value × List Char) := do
  let (negative, cs) := sign cs
  let (whole, cs) ← wholeDigits? cs
  let (places, cs) := (fraction? cs).elim (none, cs) fun r => (some r.1, r.2)
  let (power, cs) := (exponent? cs).elim (none, cs) fun r => (some r.1, r.2)
  match places, power with
  | none, none =>
    if whole.length > Number.maxIntegerDigits then return (.error (.longInteger whole.length), cs)
    else
      let n : Int := Number.ofDigits whole
      return (.ok (.int (if negative then -n else n)), cs)
  | _, _ =>
    let places := places.getD []
    return (.ok (.float (Binary64.ofDecimal negative (Number.ofDigits (whole ++ places))
      (power.getD 0 - places.length))), cs)

def specialFloat? (cs : List Char) : Option (Value × List Char) :=
  let (negative, body) := sign cs
  match body with
  | 'i' :: 'n' :: 'f' :: rest => some (.float (.infinite negative), rest)
  | 'n' :: 'a' :: 'n' :: rest => some (.float .nan, rest)
  | _ => none

/-! ### Strings -/

def shortEscape? (c : Char) : Option Char :=
  if c = 'b' then some '\x08' else if c = 't' then some '\t' else if c = 'n' then some '\n'
  else if c = 'f' then some '\x0c' else if c = 'r' then some '\r' else if c = '"' then some '"'
  else if c = '\\' then some '\\' else none

/-- A character given by hexadecimal digits; surrogates and numbers too large stand for none. -/
def codeEscape? (count : Nat) (cs : List Char) : Option (Char × List Char) := do
  let (n, rest) ← fixedDigits? 16 hexDigit? 0 count cs
  if n.isValidChar then return (Char.ofNat n, rest) else none

/-- What follows a backslash: the characters it gives and the rest. In a string of several lines
a backslash at the end of a line takes away the break and all the blanks after it. -/
def escape? (multiline : Bool) (cs : List Char) : Option (List Char × List Char) :=
  match cs with
  | [] => none
  | c :: rest =>
    if multiline && (isSpace c || c == '\n') then
      match skipSpaces cs with
      | '\n' :: rest => some ([], rest.dropWhile fun c => isSpace c || c == '\n')
      | _ => none
    else if c = 'u' then (codeEscape? 4 rest).map fun r => ([r.1], r.2)
    else if c = 'U' then (codeEscape? 8 rest).map fun r => ([r.1], r.2)
    else (shortEscape? c).map fun d => ([d], rest)

/-- Up to two more quotes belong to a string of several lines. -/
def trailingQuotes (quote : Char) : List Char → List Char × List Char
  | a :: b :: cs =>
    if a = quote then if b = quote then ([a, b], cs) else ([a], b :: cs) else ([], a :: b :: cs)
  | [a] => if a = quote then ([a], []) else ([], [a])
  | [] => ([], [])

/-- The rest of a string in double quotes; `done` holds what was read, backwards. -/
def basicString? (multiline : Bool) : Nat → List Char → List Char → Option (String × List Char)
  | 0, _, _ => none
  | _ + 1, _, [] => none
  | fuel + 1, done, c :: cs =>
    if c = '"' then
      if !multiline then some (String.ofList done.reverse, cs)
      else
        match cs with
        | '"' :: '"' :: rest =>
          let (quotes, rest) := trailingQuotes '"' rest
          some (String.ofList (done.reverse ++ quotes), rest)
        | _ => basicString? multiline fuel (c :: done) cs
    else if c = '\\' then
      match escape? multiline cs with
      | some (chars, rest) => basicString? multiline fuel (chars.reverse ++ done) rest
      | none => none
    else if isControl c && c != '\t' && !(multiline && c == '\n') then none
    else basicString? multiline fuel (c :: done) cs

def literalString? (multiline : Bool) (done : List Char) : List Char → Option (String × List Char)
  | [] => none
  | c :: cs =>
    if c = '\'' && !multiline then some (String.ofList done.reverse, cs)
    else if c = '\'' && (cs.take 2 == ['\'', '\'']) then
      let (quotes, rest) := trailingQuotes '\'' (cs.drop 2)
      some (String.ofList (done.reverse ++ quotes), rest)
    else if isControl c && c != '\t' && !(multiline && c == '\n') then none
    else literalString? multiline (c :: done) cs

/-- A line feed right after the opening quotes is not part of the string. -/
def skipFirstBreak : List Char → List Char
  | '\n' :: cs => cs
  | cs => cs

def string? : List Char → Option (String × List Char)
  | '"' :: '"' :: '"' :: cs => basicString? true (cs.length + 1) [] (skipFirstBreak cs)
  | '"' :: cs => basicString? false (cs.length + 1) [] cs
  | '\'' :: '\'' :: '\'' :: cs => literalString? true [] (skipFirstBreak cs)
  | '\'' :: cs => literalString? false [] cs
  | _ => none

def lineString? : List Char → Option (String × List Char)
  | '"' :: cs => basicString? false (cs.length + 1) [] cs
  | '\'' :: cs => literalString? false [] cs
  | _ => none

/-! ### Scalars -/

def boolean? : List Char → Option (Bool × List Char)
  | 't' :: 'r' :: 'u' :: 'e' :: cs => some (true, cs)
  | 'f' :: 'a' :: 'l' :: 's' :: 'e' :: cs => some (false, cs)
  | _ => none

/-- A date, time or number, which begin alike: a date wins over a time, a time over a number. -/
def dateOrNumber (cs : List Char) : Except DocumentFault (Value × List Char) :=
  match dateOrMoment? cs with
  | some (value, rest) => if value.dateIsValid then .ok (value, rest) else .error .malformed
  | none =>
    match timeOfDay? cs with
    | some (time, rest) => .ok (.time time, rest)
    | none =>
      match basedInteger? cs with
      | some (n, rest) => .ok (.int n, rest)
      | none =>
        match decimalNumber? cs with
        | some (value, rest) => value.map (·, rest)
        | none =>
          match specialFloat? cs with
          | some result => .ok result
          | none => .error .malformed

def scalar (cs : List Char) : Except DocumentFault (Value × List Char) :=
  if cs.head? == some '"' || cs.head? == some '\'' then
    match string? cs with
    | some (text, rest) => .ok (.text text, rest)
    | none => .error .malformed
  else
    match boolean? cs with
    | some (b, rest) => .ok (.bool b, rest)
    | none => dateOrNumber cs

end FieldGrouping.Config
