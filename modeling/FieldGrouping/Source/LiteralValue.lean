import FieldGrouping.Host
import FieldGrouping.Source.Token

/-!
The value of a string literal. In a raw literal every character stands for itself. Otherwise a
backslash begins an escape; one that is unknown keeps its backslash, and one that is cut short is
a fault. The value is a list of code points. It is a text unless one of them is a surrogate, which
is no character. Of a literal of bytes only the faults count.
-/

set_option autoImplicit false

namespace FieldGrouping.Source

/-- Why a literal has no text. A surrogate alone is no malformed literal: it has a value. -/
inductive LiteralFault where
  | malformedEscape
  | characterInBytes
  | surrogate
  deriving DecidableEq, Repr

def LiteralFault.message : LiteralFault → String
  | .malformedEscape => "malformed escape in a string literal"
  | .characterInBytes => "bytes can only contain ASCII literal characters"
  | .surrogate => "surrogates are no characters"

namespace Literal

def shortEscapes : List (Char × Char) :=
  [('\\', '\\'), ('\'', '\''), ('"', '"'), ('a', '\x07'), ('b', '\x08'), ('f', '\x0c'),
   ('n', '\n'), ('r', '\r'), ('t', '\t'), ('v', '\x0b')]

def octalDigit? (c : Char) : Option Nat :=
  if '0' ≤ c ∧ c ≤ '7' then some (c.toNat - '0'.toNat) else none

def hexDigitValue? (c : Char) : Option Nat :=
  if '0' ≤ c ∧ c ≤ '9' then some (c.toNat - '0'.toNat)
  else if 'a' ≤ c ∧ c ≤ 'f' then some (c.toNat - 'a'.toNat + 10)
  else if 'A' ≤ c ∧ c ≤ 'F' then some (c.toNat - 'A'.toNat + 10)
  else none

def octalTail (value : Nat) : Nat → List Char → Nat × List Char
  | 0, cs => (value, cs)
  | _ + 1, [] => (value, [])
  | count + 1, c :: cs =>
    match octalDigit? c with
    | some d => octalTail (8 * value + d) count cs
    | none => (value, c :: cs)

def hexTail? (value : Nat) : Nat → List Char → Option (Nat × List Char)
  | 0, cs => some (value, cs)
  | _ + 1, [] => none
  | count + 1, c :: cs => do hexTail? (16 * value + (← hexDigitValue? c)) count cs

def codeLength? (bytes : Bool) (c : Char) : Option Nat :=
  if c = 'x' then some 2
  else if bytes then none
  else if c = 'u' then some 4
  else if c = 'U' then some 8
  else none

def namedEscape (host : Host) : List Char → Except LiteralFault (List Nat × List Char)
  | '\x7b' :: cs =>
    match cs.dropWhile (· != '\x7d'), cs.takeWhile (· != '\x7d') with
    | _ :: rest, c :: name =>
      match host.characterNamed? (String.ofList (c :: name)) with
      | some value => .ok ([value.toNat], rest)
      | none => .error .malformedEscape
    | _, _ => .error .malformedEscape
  | _ => .error .malformedEscape

def escape (host : Host) (bytes : Bool) :
    List Char → Except LiteralFault (List Nat × List Char)
  | [] => .error .malformedEscape
  | c :: cs =>
    match codeLength? bytes c, octalDigit? c with
    | some count, _ =>
      match hexTail? 0 count cs with
      | none => .error .malformedEscape
      | some (n, rest) => if n ≤ 0x10ffff then .ok ([n], rest) else .error .malformedEscape
    | none, some d =>
      let (n, rest) := octalTail d 2 cs
      .ok ([n], rest)
    | none, none =>
      if c = '\n' then .ok ([], cs)
      else if c = 'N' ∧ !bytes then namedEscape host cs
      else
        match shortEscapes.lookup c with
        | some value => .ok ([value.toNat], cs)
        -- An unknown escape stands for itself, with its backslash.
        | none => .ok (['\\'.toNat, c.toNat], cs)

/-- The code points that a body with escapes stands for. Each round takes at least one character,
so the length of the body is fuel enough. -/
def unescape (host : Host) (bytes : Bool) : Nat → List Char → Except LiteralFault (List Nat)
  | _, [] => .ok []
  | 0, _ => .ok []
  | fuel + 1, c :: cs =>
    if c = '\\' then do
      let (found, rest) ← escape host bytes cs
      return found ++ (← unescape host bytes fuel rest)
    else do
      return c.toNat :: (← unescape host bytes fuel cs)

def codePoints (host : Host) (literal : Literal) : Except LiteralFault (List Nat) :=
  if literal.raw then .ok (literal.body.map Char.toNat)
  else unescape host literal.bytes literal.body.length literal.body

def text? (host : Host) (literal : Literal) : Except LiteralFault (Option String) := do
  if literal.bytes && literal.body.any (128 ≤ ·.toNat) then throw .characterInBytes
  let codes ← literal.codePoints host
  -- Bytes give no text, but their escapes are read like those of a text.
  if literal.bytes then return none
  if codes.all fun n => n.isValidChar then return some (String.ofList (codes.map Char.ofNat))
  throw .surrogate

example (host : Host) :
    (text? host ⟨false, false, "a\\x41\\101\\u00e9\\q\\\nb".toList⟩).toOption =
      some (some "aAAé\\qb") := by
  rfl

example : (text? ⟨fun name => if name = "DASH" then some '-' else none, id, id⟩
    ⟨false, false, "\\N\x7bDASH\x7dx".toList⟩).toOption = some (some "-x") := by
  decide +kernel

end Literal

end FieldGrouping.Source
