import FieldGrouping.Text.Blank
import FieldGrouping.Text.Digit

/-!
Integers as people write them: blanks around, a sign, and decimal digits of any script, with single
underscores between them. Integers are read and written up to a number of digits.
-/

set_option autoImplicit false

namespace FieldGrouping.Number

def maxIntegerDigits : Nat := 4300

def isNumberBlank (c : Char) : Bool :=
  Text.isBlank c && !(0x1c ≤ c.toNat && c.toNat ≤ 0x1f)

def trimNumber (cs : List Char) : List Char :=
  ((cs.dropWhile isNumberBlank).reverse.dropWhile isNumberBlank).reverse

/-- The digits of a number; `afterDigit` tells whether an underscore may stand here. -/
def digitsFrom? (afterDigit : Bool) : List Char → Option (List Nat)
  | [] => if afterDigit then some [] else none
  | '_' :: cs => if afterDigit then digitsFrom? false cs else none
  | c :: cs => do
    let d ← Text.digitValue? c
    return d :: (← digitsFrom? true cs)

def ofDigits (digits : List Nat) : Nat :=
  digits.foldl (fun value d => 10 * value + d) 0

def natural? (cs : List Char) : Option Nat := do
  let digits ← digitsFrom? false cs
  if digits.length ≤ maxIntegerDigits then some (ofDigits digits) else none

def integer? (text : String) : Option Int :=
  match trimNumber text.toList with
  | '-' :: cs => (natural? cs).map fun n => -(n : Int)
  | '+' :: cs => (natural? cs).map fun n => (n : Int)
  | cs => (natural? cs).map fun n => (n : Int)

def integerText? (n : Int) : Option String :=
  if n.natAbs < Nat.pow 10 maxIntegerDigits then some (toString n) else none

example : integer? " +1_0٣\n" = some 103 ∧ integer? "-007" = some (-7) := by
  decide +kernel

example : ["", "+", "1__0", "_1", "1_", "- 1", "1.0", "0x1", "1\x1c"].all (integer? · = none) := by
  decide +kernel

end FieldGrouping.Number
