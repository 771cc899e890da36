import FieldGrouping.Text.Digit
import FieldGrouping.Text.LowerCase

/-!
Names in snake case. A first pass separates an acronym from the word after it (`HTTPServer`), a
second one a word from the capital after it (`contactPhone`); then hyphens become underscores and
the whole goes to lower case.
-/

set_option autoImplicit false

namespace FieldGrouping.Text

def isCapital (c : Char) : Bool :=
  'A' ≤ c && c ≤ 'Z'

def isSmall (c : Char) : Bool :=
  'a' ≤ c && c ≤ 'z'

def isAcronymChar (c : Char) : Bool :=
  isCapital c || isDigit c

/-- Writes out a run of acronym characters, given backwards, in front of `next`. Where a small
letter follows, the last capital of a longer run belongs to the next word. -/
def closeAcronym (run : List Char) (next : Option Char) : List Char :=
  match run, next with
  | last :: before :: earlier, some c =>
    if isCapital last && isSmall c then (last :: '_' :: before :: earlier).reverse
    else run.reverse
  | _, _ => run.reverse

/-- First pass; `run` holds the acronym characters just read, backwards. -/
def splitAcronymsFrom (run : List Char) : List Char → List Char
  | [] => closeAcronym run none
  | c :: cs =>
    if isAcronymChar c then splitAcronymsFrom (c :: run) cs
    else closeAcronym run (some c) ++ c :: splitAcronymsFrom [] cs

/-- Puts an underscore before the last capital of a run that a small letter follows. -/
def splitAcronyms (cs : List Char) : List Char :=
  splitAcronymsFrom [] cs

def splitWords : List Char → List Char
  | c :: d :: cs =>
    -- The search goes on behind the capital.
    if (isSmall c || isDigit c) && isCapital d then c :: '_' :: d :: splitWords cs
    else c :: splitWords (d :: cs)
  | cs => cs

def snakeChars (cs : List Char) : List Char :=
  lowerChars ((splitWords (splitAcronyms cs)).map fun c => if c = '-' then '_' else c)

def snakeCase (name : String) : String :=
  String.ofList (snakeChars name.toList)

example : snakeCase "contactPHONENumber2Go-x" = "contact_phone_number2_go_x" := by decide +kernel

end FieldGrouping.Text
