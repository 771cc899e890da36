import FieldGrouping.Rule.Group

/-!
The rule on grouped fields: every group of fields with a common stem should be a type of its own.
With a minimum of at least one every group has a last field, where its diagnostic is located; with
a smaller minimum an empty group ends the check.
-/

set_option autoImplicit false

namespace FieldGrouping

structure RuleOptions where
  minimum : Int
  allowed : NameSet
  enabled : Bool
  deriving DecidableEq

def defaultMinimum : Int := 2

def defaultAllowed : List String := ["is", "with", "avg", "min", "max"]

def RuleOptions.default : RuleOptions :=
  ⟨defaultMinimum, NameSet.ofList defaultAllowed, true⟩

structure Diagnostic where
  message : String
  location : Location
  rule : String
  stem : String
  fields : List String
  deriving DecidableEq, Repr

def ruleName : String := "extract-type"

inductive CheckFault where
  | emptyGroup
  deriving DecidableEq, Repr

def CheckFault.message : CheckFault → String
  | .emptyGroup => "tuple index out of range"

def Group.message (group : Group) : String :=
  "Consider moving " ++ ", ".intercalate group.names ++ " to a new type and adding the '" ++
    group.stem ++ "' field instead"

def Group.diagnostic (group : Group) : Except CheckFault Diagnostic :=
  match group.members.getLast? with
  | none => .error .emptyGroup
  | some last => .ok ⟨group.message, last.field.location, ruleName, group.stem, group.names⟩

/-- The outcome of a check: what was delivered, and the fault that ended it early if any. -/
structure CheckOutcome where
  delivered : List Diagnostic
  fault : Option CheckFault
  deriving DecidableEq

/-- Delivers the diagnostics of groups in order, up to the first group that has none. -/
def deliver : List Group → CheckOutcome
  | [] => ⟨[], none⟩
  | group :: groups =>
    match group.diagnostic with
    | .error fault => ⟨[], some fault⟩
    | .ok diagnostic =>
      let rest := deliver groups
      ⟨diagnostic :: rest.delivered, rest.fault⟩

def reportedGroups (fields : List Field) (options : RuleOptions) : List Group :=
  if options.enabled then
    Group.select options.minimum (Group.candidates options.allowed (slots fields))
  else []

def checkFields (fields : List Field) (options : RuleOptions) : CheckOutcome :=
  deliver (reportedGroups fields options)

def diagnostics (fields : List Field) (options : RuleOptions) :
    Except CheckFault (List Diagnostic) :=
  let outcome := checkFields fields options
  match outcome.fault with
  | some fault => .error fault
  | none => .ok outcome.delivered

end FieldGrouping
