import FieldGrouping.Text.CaseTable
import FieldGrouping.Text.Ranges

/-!
Lower case of a text. Every capital goes to its small letter; a dotted capital I goes to two
characters; a capital sigma at the end of a word takes its final form, and only there does the
mapping look at the neighbours.
-/

set_option autoImplicit false

namespace FieldGrouping.Text

/-- The image of a code point under a run, if it belongs to the run. -/
def CaseRun.image? (run : CaseRun) (n : Nat) : Option Nat :=
  if run.first ≤ n ∧ n ≤ run.last ∧ (n - run.first) % run.step = 0 then
    some (run.image + (n - run.first))
  else none

def lowerChar (c : Char) : List Char :=
  if c.toNat < 128 then
    [if 65 ≤ c.toNat ∧ c.toNat ≤ 90 then Char.ofNat (c.toNat + 32) else c]
  -- The only capital with a small form of two characters.
  else if c = 'İ' then ['i', '\u0307']
  else
    match capitalRuns.findSome? (·.image? c.toNat) with
    | some n => [Char.ofNat n]
    | none => [c]

def isCaseIgnorable (c : Char) : Bool :=
  inRanges caseIgnorableRanges c

def isCased (c : Char) : Bool :=
  inRanges casedRanges c

def casedNext : List Char → Bool
  | [] => false
  | c :: cs => if isCaseIgnorable c then casedNext cs else isCased c

/-- Lower case of the rest of a text; `casedBefore` tells whether a letter with case came last,
ignorable characters passed over. -/
def lowerFrom (casedBefore : Bool) : List Char → List Char
  | [] => []
  | c :: cs =>
    (if c = 'Σ' then [if casedBefore && !casedNext cs then 'ς' else 'σ'] else lowerChar c) ++
      lowerFrom (if isCaseIgnorable c then casedBefore else isCased c) cs

def lowerChars (cs : List Char) : List Char :=
  lowerFrom false cs

def lower (text : String) : String :=
  String.ofList (lowerChars text.toList)

example : lower "ΟΔΟΣ ΣΑΣ.Σ" = "οδος σασ.ς" := by decide +kernel

example : lower "İÉẞ" = "i\u0307éß" := by decide +kernel

end FieldGrouping.Text
