import FieldGrouping.Declaration
import FieldGrouping.Source.LiteralValue
import FieldGrouping.Source.Recognition
import FieldGrouping.Source.Statement
import FieldGrouping.Text.SnakeCase

/-!
Schema types of a source. A walk through the source keeps the names of the definitions that are
open and, where it enters a recognised definition, adds the type that this declares. Fields come
from the statements directly in the body of a definition.
-/

set_option autoImplicit false

namespace FieldGrouping.Source

/-- A type definition with the names of those around it, the outermost first. -/
structure Definition where
  scope : List String
  name : Word
  decorators : List Expr
  bases : List (Passing × Expr)
  body : List Stmt

/-- Types of attributes that belong to the definition and not to its values. -/
def sharedTypings : List String := ["ClassVar", "typing.ClassVar"]

def isPrivate (name : String) : Bool :=
  name.toList.head? = some '_'

/-- A name that is assigned to, as a field of its definition, and the arguments of the call that
gives its value. -/
def Stmt.attribute? : Stmt → Option (Word × List (Passing × Expr))
  | .assign [target] value =>
    match target.bare, value.bare with
    | .name w, .call _ arguments => some (w, arguments)
    | _, _ => none
  | .annotate target typing value =>
    if typing.dottedName?.any sharedTypings.contains then none
    else
      match target.bare, value.map Expr.bare with
      | .name w, some (.call _ arguments) => some (w, arguments)
      | .name w, _ => some (w, [])
      | _, _ => none
  | _ => none

/-- The name that the arguments of a call declare: the first text given as the name that is not
empty. -/
def declaredName? (host : Host) : List (Passing × Expr) → Except LiteralFault (Option String)
  | [] => .ok none
  | (passing, e) :: rest =>
    match passing, e.bare with
    | .keyword "name", .literal l =>
      match l.text? host with
      | .error fault => .error fault
      | .ok none => declaredName? host rest
      | .ok (some text) => if text = "" then declaredName? host rest else .ok (some text)
    | _, _ => declaredName? host rest

def Word.place (path : Path) (typeName : String) (w : Word) : Place :=
  ⟨path, w.mark.line, w.mark.column, typeName⟩

def Stmt.field? (host : Host) (path : Path) (typeName : String) (s : Stmt) :
    Except LiteralFault (Option Field) :=
  match s.attribute? with
  | none => .ok none
  | some (w, arguments) =>
    if isPrivate w.text then .ok none
    else
      match declaredName? host arguments with
      | .error fault => .error fault
      | .ok declared =>
        let name := declared.getD w.text
        -- What snake case makes of the name is not looked at.
        if isPrivate name then .ok none
        else .ok (some ⟨Text.snakeCase name, .place (w.place path typeName)⟩)

def fieldsIn (host : Host) (path : Path) (typeName : String) :
    List Stmt → Except LiteralFault (List Field)
  | [] => .ok []
  | s :: rest => do
    let field ← s.field? host path typeName
    let fields ← fieldsIn host path typeName rest
    return field.toList ++ fields

namespace Definition

def qualifiedName (definition : Definition) : String :=
  ".".intercalate (definition.scope ++ [definition.name.text])

def isRecognised (recognition : Recognition) (definition : Definition) : Bool :=
  definition.bases.any recognition.acceptsBase ||
    definition.decorators.any recognition.acceptsDecorator

def declaration (host : Host) (path : Path) (definition : Definition) :
    Except LiteralFault TypeDeclaration := do
  let name := definition.qualifiedName
  return ⟨name, definition.name.place path name, ← fieldsIn host path name definition.body⟩

end Definition

/-! ### The walk -/

/-- How far a walk has got: the names of the open definitions, the innermost last, and the types
that were declared. -/
structure Collector where
  scope : List String
  types : List TypeDeclaration

namespace Collector

/-- Opens a definition, and adds its type if it is recognised. -/
def enter (host : Host) (path : Path) (recognition : Recognition) (collector : Collector)
    (definition : Definition) : Except LiteralFault Collector :=
  let scope := collector.scope ++ [definition.name.text]
  if definition.isRecognised recognition then do
    let type ← definition.declaration host path
    return ⟨scope, collector.types ++ [type]⟩
  else .ok ⟨scope, collector.types⟩

def leave (collector : Collector) : Collector :=
  ⟨collector.scope.dropLast, collector.types⟩

end Collector

mutual

def Stmt.visit (host : Host) (path : Path) (recognition : Recognition) (collector : Collector) :
    Stmt → Except LiteralFault Collector
  | .typeDefinition name decorators bases body => do
    let definition := ⟨collector.scope, name, decorators, bases, body⟩
    let entered ← collector.enter host path recognition definition
    let visited ← visitAll host path recognition entered body
    return visited.leave
  | .compound bodies => visitBodies host path recognition collector bodies
  | .assign _ _ => .ok collector
  | .annotate _ _ _ => .ok collector
  | .simple => .ok collector

def visitAll (host : Host) (path : Path) (recognition : Recognition) (collector : Collector) :
    List Stmt → Except LiteralFault Collector
  | [] => .ok collector
  | s :: rest => do
    let visited ← s.visit host path recognition collector
    visitAll host path recognition visited rest

def visitBodies (host : Host) (path : Path) (recognition : Recognition) (collector : Collector) :
    List (List Stmt) → Except LiteralFault Collector
  | [] => .ok collector
  | body :: rest => do
    let visited ← visitAll host path recognition collector body
    visitBodies host path recognition visited rest

end

inductive SourceFault where
  | malformed (complaint : String)
  | literal (fault : LiteralFault)
  deriving DecidableEq, Repr

def declarationsIn (host : Host) (path : Path) (recognition : Recognition)
    (statements : List Stmt) : Except LiteralFault (List TypeDeclaration) :=
  (visitAll host path recognition ⟨[], []⟩ statements).map (·.types)

def declarations (host : Host) (path : Path) (recognition : Recognition) (text : String) :
    Except SourceFault (List TypeDeclaration) :=
  match parse? text with
  | none => .error (.malformed (host.sourceComplaint text))
  | some statements => (declarationsIn host path recognition statements).mapError .literal

end FieldGrouping.Source
