import FieldGrouping.Config.RuleTable
import FieldGrouping.Source.Recognition

/-!
Settings of a run. They are built from a configuration table and from what is given on the command
line, which goes over the table of the rule.
-/

set_option autoImplicit false

namespace FieldGrouping

def defaultExcluded : List String :=
  [".git", ".venv", "venv", "__pycache__", "node_modules", "build", "dist"]

/-- What a run needs to know: the options of the rule, the folders that are left out, and which
definitions are types. -/
structure Settings where
  rule : RuleOptions
  excluded : NameSet
  recognition : Source.Recognition

def Settings.default : Settings :=
  ⟨RuleOptions.default, NameSet.ofList defaultExcluded, Source.Recognition.default⟩

def Settings.ignores (settings : Settings) (path : Path) : Bool :=
  path.parts.any settings.excluded.contains

namespace Config

/-- Names of the table of the rule; the first that is a table counts. -/
def ruleSectionNames : List String := ["extract_type", "GraphQL/ExtractType"]

def ruleSection (data : Table) : Table :=
  (ruleSectionNames.findSome? fun name =>
    match data.get? name with
    | some (.table entries) => some entries
    | _ => none).getD []

/-- The table of this tool in a project file that several tools share. -/
def toolTable (data : Table) : Table :=
  (data.subtable "tool").subtable "schemalint"

def namesInItems : List Value → List String
  | [] => []
  | .text text :: rest => Text.commaList text ++ namesInItems rest
  | _ :: rest => namesInItems rest

/-- The names in a text or in a list of texts; no other value has names. -/
def nameList : Value → List String
  | .text text => Text.commaList text
  | .list items => namesInItems items
  | _ => []

def Value.hasNames : Value → Bool
  | .text _ => true
  | .list items => items.all fun
    | .text _ => true
    | _ => false
  | _ => false

def namesUnder (key : String) (default : List String) (data : Table) :
    Except ConfigError (List String) :=
  match data.get? key with
  | none => .ok default
  | some value => if value.hasNames then .ok (nameList value) else .error (.notNames key)

def capitalKey (key : String) : String :=
  if key = RuleKey.enabled.plain then RuleKey.enabled.capital
  else if key = RuleKey.minimum.plain then RuleKey.minimum.capital
  else if key = RuleKey.allowed.plain then RuleKey.allowed.capital
  else key

/-- The table with all options of the rule in their first spelling. Of two spellings of one option
the later one counts. -/
def capitalKeys (table : Table) : Table :=
  table.foldl (fun done entry => done.put (capitalKey entry.1) entry.2) []

def effectiveSection (data overrides : Table) : Table :=
  -- Without options the table stays as it is written, where the first spelling counts.
  if overrides.isEmpty then ruleSection data
  else overlay overrides (capitalKeys (ruleSection data))

/-- The settings that a configuration table gives, with options written over the table of the rule
and further allowed stems added. -/
def settings (data overrides : Table) (extra : List String) : Except ConfigError Settings := do
  -- The order of the checks decides which fault is told where there are two.
  let rule ← ruleOptions (effectiveSection data overrides)
  let allowed := rule.allowed.union (NameSet.ofList (Text.trimAll extra))
  let excluded ← namesUnder "exclude" defaultExcluded data
  let baseClasses ← namesUnder "base_classes" Source.defaultBaseClasses data
  let decorators ← namesUnder "decorators" Source.defaultDecorators data
  return ⟨⟨rule.minimum, allowed, rule.enabled⟩, NameSet.ofList excluded, ⟨baseClasses, decorators⟩⟩

end Config

end FieldGrouping
