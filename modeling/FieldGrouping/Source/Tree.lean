import FieldGrouping.Source.Token

/-!
Source as far as the linter looks into it: names, attributes, calls and subscripts, strings, and
what can stand on the left of an assignment. All other expressions are alike. Of statements the
assignments and the type definitions count; any other compound statement is the list of its
bodies.
-/

set_option autoImplicit false

namespace FieldGrouping.Source

inductive Passing where
  | positional
  | keyword (name : String)
  | star
  | doubleStar
  deriving DecidableEq, Repr

def Passing.isBase : Passing → Bool
  | .positional => true
  | .star => true
  | _ => false

inductive Expr where
  | name (w : Word)
  | member (owner : Expr) (attr : String)
  | call (function : Expr) (arguments : List (Passing × Expr))
  | subscript (owner : Expr)
  | literal (l : Literal)
  | starred (e : Expr)
  | group (e : Expr)
  | tuple (items : List Expr)
  | list (items : List Expr)
  | other
  deriving Inhabited

inductive Stmt where
  | assign (targets : List Expr) (value : Expr)
  | annotate (target typing : Expr) (value : Option Expr)
  | simple
  | typeDefinition (name : Word) (decorators : List Expr) (bases : List (Passing × Expr))
      (body : List Stmt)
  | compound (bodies : List (List Stmt))
  deriving Inhabited

namespace Expr

def bare : Expr → Expr
  | .group e => e.bare
  | e => e

def isNamedTarget : Expr → Bool
  | .name _ => true
  | .member _ _ => true
  | .subscript _ => true
  | _ => false

def isSingleTarget (e : Expr) : Bool :=
  e.bare.isNamedTarget

mutual

def isTarget : Expr → Bool
  | .name _ => true
  | .member _ _ => true
  | .subscript _ => true
  | .group e => e.isTarget
  | .starred (.starred _) => false
  | .starred e => e.isTarget
  | .tuple items => areTargets items
  | .list items => areTargets items
  | _ => false

def areTargets : List Expr → Bool
  | [] => true
  | e :: es => e.isTarget && areTargets es

end

mutual

def isDeletable : Expr → Bool
  | .name _ => true
  | .member _ _ => true
  | .subscript _ => true
  | .group e => e.isDeletable
  | .tuple items => areDeletable items
  | .list items => areDeletable items
  | _ => false

def areDeletable : List Expr → Bool
  | [] => true
  | e :: es => e.isDeletable && areDeletable es

end

def isStarred : Expr → Bool
  | .starred _ => true
  | _ => false

end Expr

end FieldGrouping.Source
