import FieldGrouping.NameSet
import FieldGrouping.Text.Blank

/-!
Directives in comments silence rules on their line: `# schemalint: ignore` every rule, and with
rules in brackets after it only those. The first directive on a line is the one that counts. A
bracket that is not closed is no part of a directive.
-/

set_option autoImplicit false

namespace FieldGrouping.Lint

def dropText? (expected : String) (cs : List Char) : Option (List Char) :=
  if expected.toList.isPrefixOf cs then some (cs.drop expected.toList.length) else none

def afterDirective? (cs : List Char) : Option (List Char) := do
  let rest ← dropText? "schemalint:" (cs.dropWhile Text.isBlank)
  dropText? "ignore" (rest.dropWhile Text.isBlank)

/-- The rules in brackets right after a directive; none where there are no closed brackets. -/
def bracketedRules : List Char → List String
  | '[' :: cs =>
    if cs.contains ']' then Text.commaList (String.ofList (cs.takeWhile (· != ']'))) else []
  | _ => []

def directiveIn? : List Char → Option (List String)
  | [] => none
  | c :: cs =>
    if c = '#' then
      match afterDirective? cs with
      | some rest => some (bracketedRules rest)
      | none => directiveIn? cs
    else directiveIn? cs

/-- The rules that a line silences. If the set is empty, they are all rules. -/
def silencedRules? (line : String) : Option NameSet :=
  (directiveIn? line.toList).map NameSet.ofList

def lineSilences (line rule : String) : Bool :=
  match silencedRules? line with
  | none => false
  | some rules => rules.toList.isEmpty || rules.contains rule

def lineAt? (lines : List String) (number : Int) : Option String :=
  if 1 ≤ number then lines[number.toNat - 1]? else none

def silences (lines : List String) (number : Int) (rule : String) : Bool :=
  match lineAt? lines number with
  | none => false
  | some line => lineSilences line rule

example : (silencedRules? "x  #\tschemalint:ignore[ b, a ,]]").map NameSet.toList =
    some ["a", "b"] := by decide +kernel

example : (silencedRules? "# schemalint: ignore[a # schemalint: ignore[b]").map NameSet.toList =
    some ["a # schemalint: ignore[b"] := by decide +kernel

end FieldGrouping.Lint
