/-!
UTF-8 with an account of what is wrong. A character is read byte by byte: its first byte fixes how
many more are owed and which range the next one must lie in, so that overlong forms, surrogates
and code points past the last one fail at the first byte that rules them out.
-/

set_option autoImplicit false

namespace FieldGrouping.Text

inductive Utf8Cause where
  | start
  | continuation
  | ended
  deriving DecidableEq, Repr

/-- A fault in bytes: its cause, where the faulty sequence begins, its first byte and the number
of bytes it takes. -/
structure Utf8Fault where
  cause : Utf8Cause
  position : Nat
  byte : UInt8
  length : Nat
  deriving DecidableEq, Repr

/-- A character under way: the value so far, the bytes still owed, the range of the next byte and
where the character began. -/
structure Utf8Pending where
  value : Nat
  owed : Nat
  low : UInt8
  high : UInt8
  position : Nat
  byte : UInt8
  length : Nat

def Utf8Pending.ofFirst? (position : Nat) (b : UInt8) : Option Utf8Pending :=
  if b < 0xC2 then none
  else if b < 0xE0 then some ⟨b.toNat - 0xC0, 1, 0x80, 0xBF, position, b, 1⟩
  -- The bounds on the second byte leave out longer forms than needed, surrogates and numbers that
  -- are no code points.
  else if b < 0xF0 then
    some ⟨b.toNat - 0xE0, 2, if b = 0xE0 then 0xA0 else 0x80, if b = 0xED then 0x9F else 0xBF,
      position, b, 1⟩
  else if b < 0xF5 then
    some ⟨b.toNat - 0xF0, 3, if b = 0xF0 then 0x90 else 0x80, if b = 0xF4 then 0x8F else 0xBF,
      position, b, 1⟩
  else none

def decodeUtf8From (position : Nat) (pending : Option Utf8Pending) (done : List Char) :
    List UInt8 → Except Utf8Fault (List Char)
  | [] =>
    match pending with
    | none => .ok done.reverse
    | some p => .error ⟨.ended, p.position, p.byte, p.length⟩
  | b :: bytes =>
    match pending with
    | none =>
      if b < 0x80 then decodeUtf8From (position + 1) none (Char.ofNat b.toNat :: done) bytes
      else
        match Utf8Pending.ofFirst? position b with
        | some p => decodeUtf8From (position + 1) (some p) done bytes
        | none => .error ⟨.start, position, b, 1⟩
    | some p =>
      if p.low ≤ b ∧ b ≤ p.high then
        let value := p.value * 64 + (b.toNat - 0x80)
        if p.owed = 1 then decodeUtf8From (position + 1) none (Char.ofNat value :: done) bytes
        else
          decodeUtf8From (position + 1)
            (some { p with
              value := value, owed := p.owed - 1, low := 0x80, high := 0xBF,
              length := p.length + 1 }) done bytes
      else .error ⟨.continuation, p.position, p.byte, p.length⟩

def decodeUtf8 (bytes : List UInt8) : Except Utf8Fault String :=
  (decodeUtf8From 0 none [] bytes).map String.ofList

def Utf8Cause.message : Utf8Cause → String
  | .start => "invalid start byte"
  | .continuation => "invalid continuation byte"
  | .ended => "unexpected end of data"

def hexByte (b : UInt8) : String :=
  String.ofList [Nat.digitChar (b.toNat / 16), Nat.digitChar (b.toNat % 16)]

/-- Names the byte of a fault of one byte, and only the positions of a longer one. -/
def Utf8Fault.message (fault : Utf8Fault) : String :=
  if fault.length = 1 then
    "'utf-8' codec can't decode byte 0x" ++ hexByte fault.byte ++ " in position " ++
      toString fault.position ++ ": " ++ fault.cause.message
  else
    "'utf-8' codec can't decode bytes in position " ++ toString fault.position ++ "-" ++
      toString (fault.position + fault.length - 1) ++ ": " ++ fault.cause.message

end FieldGrouping.Text
