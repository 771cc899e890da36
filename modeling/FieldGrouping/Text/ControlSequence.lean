/-!
Control sequences of terminals: an escape character, a bracket, parameters and a letter. Text that
does not go to a terminal is written without them.
-/

set_option autoImplicit false

namespace FieldGrouping.Text

def isSequenceParameter (c : Char) : Bool :=
  c == ';' || c == '?' || ('0' ≤ c && c ≤ '9')

def sequenceLength? : List Char → Option Nat
  | '\x1b' :: '[' :: cs =>
    match cs.dropWhile isSequenceParameter with
    | c :: _ =>
      if c.isAlpha then some ((cs.takeWhile isSequenceParameter).length + 3) else none
    | [] => none
  | _ => none

def dropSequencesFrom : Nat → List Char → List Char
  | _, [] => []
  | count + 1, _ :: cs => dropSequencesFrom count cs
  | 0, c :: cs =>
    match sequenceLength? (c :: cs) with
    | some length => dropSequencesFrom (length - 1) cs
    | none => c :: dropSequencesFrom 0 cs

def dropSequences (text : String) : String :=
  String.ofList (dropSequencesFrom 0 text.toList)

example : dropSequences "a\x1b[1;31mb\x1b[c\x1b[31" = "ab\x1b[31" := by decide +kernel

end FieldGrouping.Text
