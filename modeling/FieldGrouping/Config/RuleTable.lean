import FieldGrouping.Config.Error
import FieldGrouping.Config.Value
import FieldGrouping.Rule.Diagnostic
import FieldGrouping.Text.Blank

/-!
The table of the rule. Each option has two spellings; one that begins with a capital is looked up
first. An option that is missing has its default, and the first option that is wrong, in a fixed
order, is the one that is reported.
-/

set_option autoImplicit false

namespace FieldGrouping.Config

/-- Options of the rule, in the order in which they are checked. -/
inductive RuleKey where
  | enabled
  | minimum
  | allowed
  deriving DecidableEq, Repr

namespace RuleKey

def capital : RuleKey → String
  | .enabled => "Enabled"
  | .minimum => "MaxFields"
  | .allowed => "Prefixes"

def plain : RuleKey → String
  | .enabled => "enabled"
  | .minimum => "max_fields"
  | .allowed => "prefixes"

def find? (key : RuleKey) (table : Table) : Option (String × Value) :=
  match table.get? key.capital with
  | some value => some (key.capital, value)
  | none => (table.get? key.plain).map (key.plain, ·)

end RuleKey

def trueWords : List String := ["1", "on", "t", "true", "y", "yes"]

def falseWords : List String := ["0", "off", "f", "false", "n", "no"]

def truthOfText? (text : String) : Option Bool :=
  let word := String.ofList (text.toList.map Char.toLower)
  if trueWords.contains word then some true
  else if falseWords.contains word then some false
  else none

def truthOfInt? (n : Int) : Option Bool :=
  if n = 1 then some true else if n = 0 then some false else none

def isWord (n : Int) : Bool :=
  -9223372036854775808 ≤ n && n ≤ 9223372036854775807

/-- A truth value, also as a number or a word. What could be a number or a word but is none of the
right ones is told apart from what could not. -/
def asTruth : Value → Except OptionFault Bool
  | .bool b => .ok b
  | .text text => (truthOfText? text).elim (.error .unclearBoolean) .ok
  | .int n =>
    if isWord n then (truthOfInt? n).elim (.error .unclearBoolean) .ok else .error .notBoolean
  | .float x =>
    match x.toInt? with
    | some n => (truthOfInt? n).elim (.error .unclearBoolean) .ok
    | none => .error .notBoolean
  | _ => .error .notBoolean

def asMinimum : Value → Except OptionFault Int
  | .int n => if n < 1 then .error .belowOne else .ok n
  | _ => .error .notInteger

def textItems : List Value → Except OptionFault (List String)
  | [] => .ok []
  | .text text :: rest => (textItems rest).map (text :: ·)
  | _ :: _ => .error .notText

/-- Names as a text with commas between them, or as a list. Names in a list are not split. -/
def asNames : Value → Except OptionFault (List String)
  | .text text => .ok (Text.commaList text)
  | .list items => (textItems items).map Text.trimAll
  | _ => .error .notList

def readOption {α : Type} (key : RuleKey) (read : Value → Except OptionFault α) (default : α)
    (table : Table) : Except ConfigError α :=
  match key.find? table with
  | none => .ok default
  | some (spelling, value) => (read value).mapError (.invalidOption spelling)

def ruleOptions (table : Table) : Except ConfigError RuleOptions := do
  let enabled ← readOption .enabled asTruth RuleOptions.default.enabled table
  let minimum ← readOption .minimum asMinimum RuleOptions.default.minimum table
  let allowed ← readOption .allowed (fun value => (asNames value).map NameSet.ofList)
    RuleOptions.default.allowed table
  return ⟨minimum, allowed, enabled⟩

def ruleOptionsOf : Value → Except ConfigError RuleOptions
  | .absent => .ok RuleOptions.default
  | .table entries => ruleOptions entries
  | _ => .error .notTable

end FieldGrouping.Config
