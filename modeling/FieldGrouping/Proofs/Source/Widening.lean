import FieldGrouping.Proofs.Source.Faults
import FieldGrouping.Proofs.Source.Fields

/-!
Recognising more names. What a definition declares does not depend on which others are recognised,
so more names of bases and decorators only add types between those that were there, and of the
names only the set counts.
-/

set_option autoImplicit false

namespace FieldGrouping.Source

/-- A recognition that has all the names of another one. -/
structure Recognition.Within (narrow wide : Recognition) : Prop where
  baseClasses : ∀ name ∈ narrow.baseClasses, name ∈ wide.baseClasses
  decorators : ∀ name ∈ narrow.decorators, name ∈ wide.decorators

section Recognised

variable {narrow wide : Recognition} (h : narrow.Within wide)

include h

theorem Recognition.Within.acceptsBase {argument : Passing × Expr}
    (accepted : narrow.acceptsBase argument = true) : wide.acceptsBase argument = true := by
  simp only [Recognition.acceptsBase, Bool.and_eq_true, Option.any_eq_true, List.any_eq_true]
    at accepted ⊢
  obtain ⟨hbase, dotted, hdotted, name, hname, hends⟩ := accepted
  exact ⟨hbase, dotted, hdotted, name, h.baseClasses name hname, hends⟩

theorem Recognition.Within.acceptsDecorator {decorator : Expr}
    (accepted : narrow.acceptsDecorator decorator = true) :
    wide.acceptsDecorator decorator = true := by
  simp only [Recognition.acceptsDecorator, Option.any_eq_true, List.contains_iff_mem]
    at accepted ⊢
  obtain ⟨dotted, hdotted, hname⟩ := accepted
  exact ⟨dotted, hdotted, h.decorators dotted hname⟩

theorem Recognition.Within.isRecognised {definition : Definition}
    (recognised : definition.isRecognised narrow = true) :
    definition.isRecognised wide = true := by
  simp only [Definition.isRecognised, Bool.or_eq_true, List.any_eq_true] at recognised ⊢
  rcases recognised with ⟨base, hbase, haccepted⟩ | ⟨decorator, hdecorator, haccepted⟩
  · exact .inl ⟨base, hbase, h.acceptsBase haccepted⟩
  · exact .inr ⟨decorator, hdecorator, h.acceptsDecorator haccepted⟩

theorem Recognition.Within.filter_sublist (definitions : List Definition) :
    (definitions.filter (·.isRecognised narrow)).Sublist
      (definitions.filter (·.isRecognised wide)) :=
  List.monotone_filter_right definitions fun _ => h.isRecognised

end Recognised

theorem isRecognised_congr {narrow wide : Recognition} (there : narrow.Within wide)
    (back : wide.Within narrow) (definition : Definition) :
    definition.isRecognised wide = definition.isRecognised narrow :=
  Bool.eq_iff_iff.2 ⟨back.isRecognised, there.isRecognised⟩

/-- Fewer computations have the results of those that are left. -/
theorem exists_forall₂_of_sublist {α β : Type} {r : α → β → Prop} {fewer xs : List α} {ys : List β}
    (sub : fewer.Sublist xs) (h : List.Forall₂ r xs ys) :
    ∃ zs, List.Forall₂ r fewer zs ∧ zs.Sublist ys := by
  induction sub generalizing ys with
  | slnil => exact ⟨[], .nil, List.nil_sublist ys⟩
  | cons x _ ih =>
    cases h with
    | @cons _ y _ ys _ hrest =>
      obtain ⟨zs, hzs, hsub⟩ := ih hrest
      exact ⟨zs, hzs, hsub.cons y⟩
  | cons_cons x _ ih =>
    cases h with
    | @cons _ y _ ys hxy hrest =>
      obtain ⟨zs, hzs, hsub⟩ := ih hrest
      exact ⟨y :: zs, .cons hxy hzs, hsub.cons_cons y⟩

theorem declarations_congr {narrow wide : Recognition} (there : narrow.Within wide)
    (back : wide.Within narrow) (host : Host) (path : Path) (text : String) :
    declarations host path wide text = declarations host path narrow text := by
  simp only [declarations, declarationsIn_eq, declaredBy, isRecognised_congr there back]

/-- A type inside of a definition that only more names make a type, and a decorated one. -/
def enclosingText : String :=
  "class A(m.Node):\n x = F()\n class B(ObjectType):\n" ++
    "  y = F(name='z\\N\x7bHYPHEN-MINUS\x7dy')\n@register\nclass C: z: int\n"

end FieldGrouping.Source
