import FieldGrouping.Command.Request
import FieldGrouping.Config.Load
import FieldGrouping.Report.Summary
import FieldGrouping.Text.ControlSequence

/-! The commands: checking files, explaining the rule, and telling the version. -/

set_option autoImplicit false

namespace FieldGrouping.Command

open Config (Table LoadFault)
open Files (Workspace)
open Report (Output)
open Source (Registry)

structure Outcome where
  exit : Nat
  output : Output
  deriving DecidableEq, Repr

def linesText (lines : List String) : String :=
  String.join (lines.map fun line => Text.dropSequences (line ++ "\n"))

def Outcome.stdout (outcome : Outcome) : String :=
  linesText outcome.output.stdout

def Outcome.stderr (outcome : Outcome) : String :=
  linesText outcome.output.stderr

inductive CommandFault where
  | request (fault : RequestFault)
  | load (fault : LoadFault)
  | run (fault : Lint.RunFault)
  | longNumber
  deriving DecidableEq, Repr

def longNumberMessage : String :=
  "Exceeds the limit (" ++ toString Number.maxIntegerDigits ++
    " digits) for integer string conversion; use sys.set_int_max_str_digits() to increase the limit"

def RequestFault.message : RequestFault → String
  | .usage => "Usage: schemalint [--version] check|explain [options] [paths]"
  | .nullInPath => Files.nullInPathMessage

def CommandFault.message : CommandFault → String
  | .request fault => fault.message
  | .load fault => fault.message
  | .run fault => fault.message
  | .longNumber => longNumberMessage

def CommandFault.exit : CommandFault → Nat
  | .request .usage => 2
  | _ => 1

def refusal (message : String) : Outcome :=
  ⟨2, ⟨[], [message]⟩⟩

/-- The settings for a command; a configuration that is refused is an outcome. -/
def loadSettings (host : Host) (workspace : Workspace) (source : ConfigSource)
    (overrides : Table) (extra : List String) : Except CommandFault (Except Outcome Settings) :=
  let settings := do
    let data ← Config.load host workspace (some source.root) source.config
    (Config.settings data overrides extra).mapError .refused
  match settings with
  | .ok settings => .ok (.ok settings)
  | .error (.refused error) => .ok (.error (refusal ("Configuration error: " ++ error.message)))
  | .error fault => .error (.load fault)

/-! ### Checking -/

def formats : List String := ["text", "json"]

def overrides (request : CheckRequest) : Table :=
  [(Config.RuleKey.minimum.capital, request.minimum.elim .absent .int),
   (Config.RuleKey.allowed.capital,
    if request.clearStems then .list (request.stems.map .text) else .absent)]

def extraStems (request : CheckRequest) : List String :=
  if request.clearStems then [] else request.stems

/-- The paths to check, which are the root where none are given. -/
def checkedPaths (request : CheckRequest) : List Path :=
  if request.paths.isEmpty then [request.source.root] else request.paths

def checkOutcome (request : CheckRequest) (findings : Lint.Findings) : Outcome where
  exit := if !findings.diagnostics.isEmpty && request.failing then 1 else 0
  output :=
    if request.format = "json" then Report.jsonOutput findings else Report.textOutput findings

def check (host : Host) (workspace : Workspace) (request : CheckRequest) :
    Except CommandFault Outcome := do
  -- An unknown format is refused before the configuration is read.
  if !formats.contains request.format then
    return refusal ("Unknown format " ++ Text.quoted request.format ++ "; expected one of " ++
      ", ".intercalate formats ++ ".")
  match ← loadSettings host workspace request.source (overrides request) (extraStems request) with
  | .error outcome => return outcome
  | .ok settings =>
    match Lint.lintPaths workspace (Registry.standard host) settings (checkedPaths request) with
    | .error fault => throw (.run fault)
    | .ok findings => return checkOutcome request findings

/-! ### Explaining -/

def ruleText : List String :=
  ["Suggest extracting same-prefix fields of a schema type into a nested type.",
   "",
   "Bad::",
   "",
   "    class UserType(graphene.ObjectType):",
   "        registered_at = graphene.String()",
   "        contact_phone = graphene.String()",
   "        contact_first_name = graphene.String()",
   "        contact_last_name = graphene.String()",
   "",
   "Good::",
   "",
   "    class ContactType(graphene.ObjectType):",
   "        phone = graphene.String()",
   "        first_name = graphene.String()",
   "        last_name = graphene.String()",
   "",
   "    class UserType(graphene.ObjectType):",
   "        registered_at = graphene.String()",
   "        contact = graphene.Field(ContactType)"]

def allowedText (allowed : NameSet) : String :=
  if ", ".intercalate allowed.toList = "" then "(none)" else ", ".intercalate allowed.toList

def optionLines? (rule : RuleOptions) : Option (List String) := do
  let minimum ← Number.integerText? rule.minimum
  return ["Enabled: " ++ if rule.enabled then "true" else "false",
    "MaxFields: " ++ minimum,
    "Prefixes: " ++ allowedText rule.allowed]

def explain (host : Host) (workspace : Workspace) (source : ConfigSource) :
    Except CommandFault Outcome := do
  match ← loadSettings host workspace source [] [] with
  | .error outcome => return outcome
  | .ok settings =>
    match optionLines? settings.rule with
    | none => throw .longNumber
    | some lines =>
      return ⟨0, ⟨(ruleName ++ ": " ++ "\n".intercalate ruleText) :: "" :: lines, []⟩⟩

/-! ### All commands -/

def versionLine : String := "schemalint 0.1.0"

def run (host : Host) (workspace : Workspace) (words : List String) :
    Except CommandFault Outcome :=
  match request words with
  | .error fault => .error (.request fault)
  | .ok .version => .ok ⟨0, ⟨[versionLine], []⟩⟩
  | .ok (.check request) => check host workspace request
  | .ok (.explain source) => explain host workspace source

end FieldGrouping.Command
