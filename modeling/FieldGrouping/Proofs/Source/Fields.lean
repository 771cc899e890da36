import FieldGrouping.Proofs.Source.Collecting
import Mathlib.Data.List.ReduceOption

/-!
What the declarations of a source are made of. Each recognised definition gives one declaration,
and each simple statement directly in its body gives a field or none; other statements of the body
give none.
-/

set_option autoImplicit false

namespace FieldGrouping.Source

/-- Statements without bodies. -/
def Stmt.isSimple : Stmt → Bool
  | .assign _ _ => true
  | .annotate _ _ _ => true
  | .simple => true
  | .typeDefinition _ _ _ _ => false
  | .compound _ => false

section Fields

variable {host : Host} {path : Path} {typeName : String}

theorem attribute?_of_not_isSimple {s : Stmt} (h : s.isSimple = false) : s.attribute? = none := by
  cases s <;> simp_all [Stmt.isSimple, Stmt.attribute?]

theorem field?_of_not_isSimple {s : Stmt} (h : s.isSimple = false) :
    s.field? host path typeName = .ok none := by
  simp [Stmt.field?, attribute?_of_not_isSimple h]

theorem field?_eq_some_iff {s : Stmt} {field : Field} :
    s.field? host path typeName = .ok (some field) ↔
      ∃ w arguments declared, s.attribute? = some (w, arguments) ∧ isPrivate w.text = false ∧
        declaredName? host arguments = .ok declared ∧ isPrivate (declared.getD w.text) = false ∧
        field = ⟨Text.snakeCase (declared.getD w.text), .place (w.place path typeName)⟩ := by
  unfold Stmt.field?
  cases s.attribute? with
  | none => simp
  | some found =>
    obtain ⟨w, arguments⟩ := found
    cases hp : isPrivate w.text with
    | true => simp [hp]
    | false =>
      cases hd : declaredName? host arguments with
      | error fault => simp [hp, hd]
      | ok declared =>
        cases hq : isPrivate (declared.getD w.text) with
        | true => simp [hp, hd, hq]
        | false =>
          simp [hp, hd, hq]
          exact eq_comm

theorem fieldsIn_eq_ok_iff {body : List Stmt} {fields : List Field} :
    fieldsIn host path typeName body = .ok fields ↔
      ∃ found, List.Forall₂ (fun s field => s.field? host path typeName = .ok field) body found ∧
        fields = found.reduceOption := by
  induction body generalizing fields with
  | nil => simp [fieldsIn, eq_comm]
  | cons s rest ih =>
    simp only [fieldsIn, bind_eq_ok_iff, ih]
    constructor
    · rintro ⟨field, hf, fields, ⟨found, hr, rfl⟩, he⟩
      cases he
      refine ⟨field :: found, .cons hf hr, ?_⟩
      cases field <;> simp
    · rintro ⟨_, h, rfl⟩
      cases h with
      | @cons _ field _ found hf hr =>
        refine ⟨field, hf, found.reduceOption, ⟨found, hr, rfl⟩, ?_⟩
        cases field <;> simp [pure, Except.pure]

/-- The statements with bodies do not count. -/
theorem fieldsIn_filter_isSimple (body : List Stmt) :
    fieldsIn host path typeName (body.filter Stmt.isSimple) = fieldsIn host path typeName body := by
  induction body with
  | nil => rfl
  | cons s rest ih =>
    cases hs : s.isSimple with
    | true => simp [hs, fieldsIn, ih]
    | false =>
      have hfield : s.field? host path typeName = .ok none := field?_of_not_isSimple hs
      simp only [List.filter_cons, hs, Bool.false_eq_true, if_false, ih, fieldsIn, hfield]
      cases fieldsIn host path typeName rest <;> rfl

theorem mem_fieldsIn {body : List Stmt} {fields : List Field}
    (h : fieldsIn host path typeName body = .ok fields) {field : Field} :
    field ∈ fields ↔ ∃ s ∈ body, s.field? host path typeName = .ok (some field) := by
  obtain ⟨found, hfound, rfl⟩ := fieldsIn_eq_ok_iff.1 h
  rw [List.reduceOption_mem_iff]
  constructor
  · exact exists_left_of_mem hfound
  · rintro ⟨s, hs, hf⟩
    obtain ⟨other, ho, hf'⟩ := exists_right_of_mem hfound hs
    rw [hf] at hf'
    cases hf'
    exact ho

theorem location_of_mem_fieldsIn {body : List Stmt} {fields : List Field}
    (h : fieldsIn host path typeName body = .ok fields) {field : Field} (mem : field ∈ fields) :
    ∃ w : Word, field.location = .place (w.place path typeName) := by
  obtain ⟨s, _, hf⟩ := (mem_fieldsIn h).1 mem
  obtain ⟨w, _, _, _, _, _, _, rfl⟩ := field?_eq_some_iff.1 hf
  exact ⟨w, rfl⟩

end Fields

section Declarations

variable {host : Host} {path : Path} {recognition : Recognition}

theorem declaration_eq_ok_iff {definition : Definition} {type : TypeDeclaration} :
    definition.declaration host path = .ok type ↔
      ∃ fields, fieldsIn host path definition.qualifiedName definition.body = .ok fields ∧
        type = ⟨definition.qualifiedName,
          definition.name.place path definition.qualifiedName, fields⟩ := by
  simp only [Definition.declaration, bind_eq_ok_iff]
  refine exists_congr fun fields => and_congr_right fun _ => ?_
  simp [pure, Except.pure, eq_comm]

theorem declarationsIn_eq_ok_iff {statements : List Stmt} {types : List TypeDeclaration} :
    declarationsIn host path recognition statements = .ok types ↔
      List.Forall₂ (fun definition type => definition.declaration host path = .ok type)
        ((definitionsIn [] statements).filter (·.isRecognised recognition)) types := by
  rw [declarationsIn_eq, declaredBy, mapM_eq_ok_iff]

theorem declarations_eq_ok_iff {text : String} {types : List TypeDeclaration} :
    declarations host path recognition text = .ok types ↔
      ∃ statements, parse? text = some statements ∧
        declarationsIn host path recognition statements = .ok types := by
  unfold declarations
  cases parse? text with
  | none => simp
  | some statements =>
    cases hd : declarationsIn host path recognition statements <;> simp [hd, Except.mapError]

end Declarations

end FieldGrouping.Source
