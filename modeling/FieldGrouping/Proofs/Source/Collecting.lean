import FieldGrouping.Proofs.Fallible
import FieldGrouping.Source.Collection

/-!
What a walk through a source collects, told without its state. The definitions of a source have the
names of those around them and come in the order in which they open. A walk gives back the scope
that it was given, and adds the types of the recognised definitions that it met.
-/

set_option autoImplicit false

namespace FieldGrouping.Source

mutual

/-- The definitions in a statement, in the order in which they open. -/
def Stmt.definitions (scope : List String) : Stmt → List Definition
  | .typeDefinition name decorators bases body =>
    ⟨scope, name, decorators, bases, body⟩ :: definitionsIn (scope ++ [name.text]) body
  | .compound bodies => definitionsInBodies scope bodies
  | .assign _ _ => []
  | .annotate _ _ _ => []
  | .simple => []

def definitionsIn (scope : List String) : List Stmt → List Definition
  | [] => []
  | s :: rest => s.definitions scope ++ definitionsIn scope rest

def definitionsInBodies (scope : List String) : List (List Stmt) → List Definition
  | [] => []
  | body :: rest => definitionsIn scope body ++ definitionsInBodies scope rest

end

/-- The types that the recognised ones of some definitions declare. -/
def declaredBy (host : Host) (path : Path) (recognition : Recognition)
    (definitions : List Definition) : Except LiteralFault (List TypeDeclaration) :=
  (definitions.filter (·.isRecognised recognition)).mapM (·.declaration host path)

/-- A collector with more types. -/
def Collector.extend (collector : Collector) (types : List TypeDeclaration) : Collector :=
  ⟨collector.scope, collector.types ++ types⟩

section Walk

variable {host : Host} {path : Path} {recognition : Recognition}

theorem declaredBy_nil : declaredBy host path recognition [] = .ok [] :=
  rfl

theorem declaredBy_cons (definition : Definition) (rest : List Definition) :
    declaredBy host path recognition (definition :: rest) =
      if definition.isRecognised recognition then do
        let type ← definition.declaration host path
        let types ← declaredBy host path recognition rest
        return type :: types
      else declaredBy host path recognition rest := by
  unfold declaredBy
  cases h : definition.isRecognised recognition <;> simp [h]

theorem declaredBy_append (before after : List Definition) :
    declaredBy host path recognition (before ++ after) = (do
      let types ← declaredBy host path recognition before
      let more ← declaredBy host path recognition after
      return types ++ more) := by
  rw [declaredBy, List.filter_append, List.mapM_append]
  rfl

/-- One walk after another adds the types of both. -/
theorem bind_extend {before after : List Definition} {collector : Collector}
    {next : Collector → Except LiteralFault Collector}
    (step : ∀ met : Collector, met.scope = collector.scope →
      next met = (declaredBy host path recognition after).map met.extend) :
    (declaredBy host path recognition before).map collector.extend >>= next =
      (declaredBy host path recognition (before ++ after)).map collector.extend := by
  rw [declaredBy_append]
  cases declaredBy host path recognition before with
  | error fault => rfl
  | ok types =>
    have hnext := step (collector.extend types) rfl
    simp only [Except.map, bind, Except.bind, pure, Except.pure, hnext]
    cases declaredBy host path recognition after <;> simp [Collector.extend]

/-- What a definition and all that is in its body add. -/
theorem enter_body {definition : Definition} {inner : List Definition} {collector : Collector}
    {visit : Collector → Except LiteralFault Collector}
    (body : ∀ entered : Collector, entered.scope = collector.scope ++ [definition.name.text] →
      visit entered = (declaredBy host path recognition inner).map entered.extend) :
    (do
      let entered ← collector.enter host path recognition definition
      let visited ← visit entered
      return visited.leave) =
      (declaredBy host path recognition (definition :: inner)).map collector.extend := by
  rw [declaredBy_cons]
  unfold Collector.enter
  cases definition.isRecognised recognition with
  | false =>
    have hbody := body ⟨collector.scope ++ [definition.name.text], collector.types⟩ rfl
    simp only [Bool.false_eq_true, if_false, bind, Except.bind, hbody]
    cases declaredBy host path recognition inner <;>
      simp [Except.map, pure, Except.pure, Collector.extend, Collector.leave]
  | true =>
    cases definition.declaration host path with
    | error fault => rfl
    | ok type =>
      have hbody := body ⟨collector.scope ++ [definition.name.text], collector.types ++ [type]⟩ rfl
      simp only [if_true, bind, Except.bind, pure, Except.pure, hbody]
      cases declaredBy host path recognition inner <;>
        simp [Except.map, Collector.extend, Collector.leave]

mutual

theorem visit_eq (collector : Collector) (s : Stmt) :
    s.visit host path recognition collector =
      (declaredBy host path recognition (s.definitions collector.scope)).map collector.extend := by
  cases s with
  | typeDefinition name decorators bases body =>
    refine enter_body fun entered hscope => ?_
    rw [visitAll_eq entered body, hscope]
  | compound bodies => exact visitBodies_eq collector bodies
  | assign _ _ | annotate _ _ _ | simple =>
    simp [Stmt.visit, Stmt.definitions, declaredBy_nil, Except.map, Collector.extend]

theorem visitAll_eq (collector : Collector) (body : List Stmt) :
    visitAll host path recognition collector body =
      (declaredBy host path recognition (definitionsIn collector.scope body)).map
        collector.extend := by
  match body with
  | [] => simp [visitAll, definitionsIn, declaredBy_nil, Except.map, Collector.extend]
  | s :: rest =>
    rw [visitAll, visit_eq collector s, definitionsIn]
    exact bind_extend fun met hscope => by rw [visitAll_eq met rest, hscope]

theorem visitBodies_eq (collector : Collector) (bodies : List (List Stmt)) :
    visitBodies host path recognition collector bodies =
      (declaredBy host path recognition (definitionsInBodies collector.scope bodies)).map
        collector.extend := by
  match bodies with
  | [] => simp [visitBodies, definitionsInBodies, declaredBy_nil, Except.map, Collector.extend]
  | body :: rest =>
    rw [visitBodies, visitAll_eq collector body, definitionsInBodies]
    exact bind_extend fun met hscope => by rw [visitBodies_eq met rest, hscope]

end

/-- The walk through a whole source collects the types of its recognised definitions. -/
theorem declarationsIn_eq (statements : List Stmt) :
    declarationsIn host path recognition statements =
      declaredBy host path recognition (definitionsIn [] statements) := by
  rw [declarationsIn, visitAll_eq]
  cases declaredBy host path recognition (definitionsIn [] statements) <;>
    simp [Except.map, Collector.extend]

end Walk

end FieldGrouping.Source
