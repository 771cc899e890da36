import FieldGrouping.Command.Options
import FieldGrouping.Files.Path
import FieldGrouping.Number.Integer

/-!
What a command line asks for. Words are read first; then the values of the options are checked, in
the order in which the options are given, and the arguments after them.
-/

set_option autoImplicit false

namespace FieldGrouping.Command

structure ConfigSource where
  root : Path
  config : Option Path
  deriving DecidableEq, Repr

structure CheckRequest where
  paths : List Path
  source : ConfigSource
  minimum : Option Int
  stems : List String
  clearStems : Bool
  format : String
  failing : Bool
  deriving DecidableEq, Repr

inductive Request where
  | version
  | check (request : CheckRequest)
  | explain (source : ConfigSource)
  deriving DecidableEq, Repr

inductive RequestFault where
  | usage
  | nullInPath
  deriving DecidableEq, Repr

def checkOptions : OptionNames where
  valued := ["--root", "--config", "--max-fields", "--prefix", "--format"]
  flags := ["--clear-prefixes", "--fail-on-violations", "--no-fail-on-violations"]

def explainOptions : OptionNames where
  valued := ["--root", "--config"]
  flags := []

def minimum? (text : String) : Option Int :=
  match Number.integer? text with
  | some n => if n < 1 then none else some n
  | none => none

def valueFault? (option : String × String) : Option RequestFault :=
  if option.1 = "--root" ∨ option.1 = "--config" then
    if (Path.ofString option.2).hasNull then some .nullInPath else none
  else if option.1 = "--max-fields" then
    if (minimum? option.2).isNone then some .usage else none
  else none

def givenFault? (given : List Given) : Option RequestFault :=
  ((optionsInOrder given).findSome? valueFault?).or
    (if (argumentsOf given).any fun text => (Path.ofString text).hasNull then some .nullInPath
     else none)

def configSource (given : List Given) : ConfigSource where
  root := Path.ofString ((lastValue? "--root" given).getD ".")
  config := (lastValue? "--config" given).map Path.ofString

def checkRequest (given : List Given) : CheckRequest where
  paths := (argumentsOf given).map Path.ofString
  source := configSource given
  minimum := (lastValue? "--max-fields" given).bind minimum?
  stems := valuesOf "--prefix" given
  clearStems := given.contains (.flag "--clear-prefixes")
  format := (lastValue? "--format" given).getD "text"
  failing := (lastFlag? "--fail-on-violations" "--no-fail-on-violations" given).getD true

def checkedGiven (names : OptionNames) (words : List String) : Except RequestFault (List Given) :=
  match readGiven? names words with
  | none => .error .usage
  | some given =>
    match givenFault? given with
    | some fault => .error fault
    | none => .ok given

def commandRequest (command : String) (words : List String) : Except RequestFault Request :=
  if command = "check" then do
    let given ← checkedGiven checkOptions words
    return .check (checkRequest given)
  else if command = "explain" then do
    let given ← checkedGiven explainOptions words
    if (argumentsOf given).isEmpty then return .explain (configSource given)
    else throw .usage
  else .error .usage

def splitCommand? : List String → Option (Bool × List String)
  | [] => some (false, [])
  | word :: rest =>
    if word = "--" then some (false, rest)
    else if word = "--version" then (splitCommand? rest).map fun found => (true, found.2)
    else if isOptionWord word then none
    else some (false, word :: rest)

def request (words : List String) : Except RequestFault Request :=
  match splitCommand? words with
  | none => .error .usage
  | some (true, _) => .ok .version
  | some (false, []) => .error .usage
  | some (false, command :: rest) => commandRequest command rest

end FieldGrouping.Command
