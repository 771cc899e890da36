import FieldGrouping.Source.Parse

/-!
Parameters of functions. A slash ends the parameters given by position only, a star begins those
given by name only, two stars collect what is left. Without a star in front, no parameter without
a default follows one that has a default.
-/

set_option autoImplicit false

namespace FieldGrouping.Source

inductive Parameter where
  | plain (hasDefault : Bool)
  | slash
  | star
  | starNamed
  | doubleStar
  deriving DecidableEq, Repr

inductive ParameterPhase where
  | positional (any slash default : Bool)
  | bareStar
  | named
  | ended
  deriving DecidableEq, Repr

def ParameterPhase.next? : ParameterPhase → Parameter → Option ParameterPhase
  | .positional _ slash default, .plain hasDefault =>
    if default && !hasDefault then none else some (.positional true slash (default || hasDefault))
  | .positional any slash default, .slash =>
    if any && !slash then some (.positional any true default) else none
  | .positional _ _ _, .star => some .bareStar
  | .positional _ _ _, .starNamed => some .named
  | .bareStar, .plain _ => some .named
  | .named, .plain _ => some .named
  | .positional _ _ _, .doubleStar => some .ended
  | .named, .doubleStar => some .ended
  | _, _ => none

/-- Whether parameters stand in an order that is allowed. A star alone needs one after it. -/
def wellOrdered (parameters : List Parameter) : Bool :=
  match parameters.foldlM ParameterPhase.next? (.positional false false false) with
  | some .bareStar => false
  | some _ => true
  | none => false

open Parse

/-- One parameter. `typing` reads what may follow a name, `starTyping` what may follow the
name after a star, and `expression` a default. -/
def parameter (typing starTyping expression : Parse Unit) : Parse Parameter :=
  (sign "/" *> pure .slash) <|>
  (do
    sign "**"
    let _ ← name
    typing
    return .doubleStar) <|>
  (do
    sign "*"
    match ← option name with
    | none => return .star
    | some _ =>
      starTyping
      return .starNamed) <|>
  (do
    let _ ← name
    typing
    if ← accepts (sign "=") then
      expression
      return .plain true
    else return .plain false)

def parameters (typing starTyping expression : Parse Unit) : Parse Unit := do
  match ← option (commaSeparated (parameter typing starTyping expression)) with
  | none => return ()
  | some (found, _) => require (wellOrdered found)

end FieldGrouping.Source
