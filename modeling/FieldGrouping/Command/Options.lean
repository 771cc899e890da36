/-!
Options on a command line. An option that takes a value takes it after an equals sign or as the
next word, whatever that word is. Two dashes end the options. A word that begins with a dash and is
no known option is refused.
-/

set_option autoImplicit false

namespace FieldGrouping.Command

inductive Given where
  | option (name value : String)
  | flag (name : String)
  | argument (text : String)
  deriving DecidableEq, Repr

structure OptionNames where
  valued : List String
  flags : List String

def isOptionWord (word : String) : Bool :=
  match word.toList with
  | '-' :: _ :: _ => true
  | _ => false

def splitEquals (word : String) : String × Option String :=
  let cs := word.toList
  match cs.dropWhile (· != '=') with
  | [] => (word, none)
  | _ :: value => (String.ofList (cs.takeWhile (· != '=')), some (String.ofList value))

def readGiven? (names : OptionNames) : List String → Option (List Given)
  | [] => some []
  | word :: rest =>
    if word = "--" then some (rest.map .argument)
    else if isOptionWord word then
      let (name, value) := splitEquals word
      if names.valued.contains name then
        match value with
        | some value => (readGiven? names rest).map (.option name value :: ·)
        | none =>
          match rest with
          | [] => none
          | value :: rest => (readGiven? names rest).map (.option name value :: ·)
      else if names.flags.contains name && value.isNone then
        (readGiven? names rest).map (.flag name :: ·)
      else none
    else (readGiven? names rest).map (.argument word :: ·)

def valuesOf (name : String) (given : List Given) : List String :=
  given.filterMap fun
    | .option found value => if found = name then some value else none
    | _ => none

def lastValue? (name : String) (given : List Given) : Option String :=
  (valuesOf name given).getLast?

def argumentsOf (given : List Given) : List String :=
  given.filterMap fun
    | .argument text => some text
    | _ => none

def lastFlag? (on off : String) (given : List Given) : Option Bool :=
  (given.filterMap fun
    | .flag name => if name = on then some true else if name = off then some false else none
    | _ => none).getLast?

def optionsInOrder (given : List Given) : List (String × String) :=
  let names := (given.filterMap fun
    | .option name _ => some name
    | _ => none).eraseDups
  names.filterMap fun name => (lastValue? name given).map (name, ·)

end FieldGrouping.Command
