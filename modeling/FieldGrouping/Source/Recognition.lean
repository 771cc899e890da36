import FieldGrouping.Source.Tree

/-!
Which definitions declare schema types. A definition does if one of its bases has a recognised
name, perhaps after a path of modules, or if one of its decorators is a recognised one.
-/

set_option autoImplicit false

namespace FieldGrouping.Source

structure Recognition where
  baseClasses : List String
  decorators : List String
  deriving DecidableEq, Repr

def defaultBaseClasses : List String :=
  ["ObjectType", "InputObjectType", "Interface", "BaseObject"]

def defaultDecorators : List String :=
  ["strawberry.type", "strawberry.input", "strawberry.interface", "strawberry.federation.type",
   "type", "input", "interface"]

def Recognition.default : Recognition :=
  ⟨defaultBaseClasses, defaultDecorators⟩

/-- The name with dots that an expression leads to: through calls and subscripts, but through
nothing else. -/
def Expr.dottedName? : Expr → Option String
  | .name w => some w.text
  | .member owner attr => owner.dottedName?.map (· ++ "." ++ attr)
  | .call function _ => function.dottedName?
  | .subscript owner => owner.dottedName?
  | .group e => e.dottedName?
  | _ => none

/-- Whether a name with dots is a given name, or ends in it after a dot. -/
def endsInName (dotted name : String) : Bool :=
  dotted == name || ('.' :: name.toList).isSuffixOf dotted.toList

namespace Recognition

def acceptsBase (recognition : Recognition) (argument : Passing × Expr) : Bool :=
  argument.1.isBase &&
    argument.2.dottedName?.any fun dotted => recognition.baseClasses.any (endsInName dotted)

def acceptsDecorator (recognition : Recognition) (decorator : Expr) : Bool :=
  decorator.dottedName?.any recognition.decorators.contains

end Recognition

example :
    endsInName "graphene.ObjectType" "ObjectType" ∧ ¬ endsInName "MyObjectType" "ObjectType" := by
  decide +kernel

end FieldGrouping.Source
