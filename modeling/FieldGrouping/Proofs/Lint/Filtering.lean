import FieldGrouping.Proofs.Lint.Directives
import FieldGrouping.Proofs.Lint.Silencing

/-!
Silencing takes diagnostics away and changes none. Groups are formed before any directive is looked
at, so a group that is silenced keeps its fields: the more lines are silenced, the fewer diagnostics
are left, each as it was and in its place.
-/

set_option autoImplicit false

namespace FieldGrouping.Lint

/-- No line of this number silences the rule. -/
def Audible (lines : List String) (number : Int) : Prop :=
  number < 1 ∨ lines.length < number ∨
    ∀ line, lines[number.toNat - 1]? = some line → lineSilences line ruleName = false

/-- A diagnostic of a type is kept if neither the line of the type nor its own silences the rule. -/
structure Kept (lines : List String) (type : TypeDeclaration) (diagnostic : Diagnostic) : Prop where
  type : Audible lines type.place.line
  field : (∃ label, diagnostic.location = .handle label) ∨
    ∃ place, diagnostic.location = .place place ∧ Audible lines place.line

/-- The numbers of the lines that silence the rule. -/
def silencedLines (lines : List String) : Set Int :=
  {number | silences lines number ruleName = true}

section Keeping

variable {lines lines' : List String} {type : TypeDeclaration} {diagnostic : Diagnostic}

theorem audible_iff {number : Int} :
    Audible lines number ↔ silences lines number ruleName = false := by
  rw [← Bool.not_eq_true, silences_iff, Audible]
  simp only [not_and, not_exists, Bool.not_eq_true]
  by_cases h : 1 ≤ number ∧ number ≤ lines.length
  · have hin : ¬ number < 1 ∧ ¬ (lines.length : Int) < number := by omega
    simp only [hin.1, hin.2, false_or, h, forall_const, and_self]
  · have hout : number < 1 ∨ (lines.length : Int) < number := by omega
    simp only [h, false_imp_iff, iff_true]
    exact hout.imp_right .inl

theorem isDropped_eq_false_iff :
    isDropped lines type diagnostic = false ↔
      ∀ number ∈ silencingLines type diagnostic, silences lines number ruleName = false := by
  rw [isDropped, List.any_eq_false]
  simp only [Bool.not_eq_true]

theorem kept_iff : Kept lines type diagnostic ↔ isDropped lines type diagnostic = false := by
  rw [isDropped_eq_false_iff, silencingLines]
  cases hlocation : diagnostic.location with
  | place place =>
    simp only [List.forall_mem_cons, List.not_mem_nil, false_imp_iff, implies_true, and_true,
      ← audible_iff]
    constructor
    · rintro ⟨htype, ⟨label, hlabel⟩ | ⟨other, hother, hfield⟩⟩
      · cases hlocation.symm.trans hlabel
      · cases hlocation.symm.trans hother
        exact ⟨htype, hfield⟩
    · rintro ⟨htype, hfield⟩
      exact ⟨htype, .inr ⟨place, hlocation, hfield⟩⟩
  | handle label =>
    rw [List.forall_mem_singleton, ← audible_iff]
    exact ⟨fun kept => kept.type, fun htype => ⟨htype, .inl ⟨label, hlocation⟩⟩⟩

instance : Decidable (Kept lines type diagnostic) :=
  decidable_of_iff _ kept_iff.symm

theorem Kept.of_subset (subset : silencedLines lines ⊆ silencedLines lines')
    (kept : Kept lines' type diagnostic) : Kept lines type diagnostic := by
  rw [kept_iff, isDropped_eq_false_iff] at kept ⊢
  intro number hnumber
  rw [← Bool.not_eq_true]
  intro hsilenced
  have hsilenced' : silences lines' number ruleName = true := subset hsilenced
  rw [kept number hnumber] at hsilenced'
  cases hsilenced'

theorem lintType_eq_filter {settings : Settings} (positive : 1 ≤ settings.rule.minimum)
    (lines : List String) (type : TypeDeclaration) :
    lintType settings lines type =
      .ok ((checkFields type.fields settings.rule).delivered.filter (Kept lines type ·)) := by
  have hrule (diagnostic : Diagnostic)
      (h : diagnostic ∈ (checkFields type.fields settings.rule).delivered) :
      diagnostic.rule = ruleName := rule_of_mem_delivered h
  rw [lintType_eq positive, unsilenced_eq lines type hrule]
  refine congrArg Except.ok (List.filter_congr fun diagnostic _ => ?_)
  rw [Bool.eq_iff_iff, Bool.not_eq_true', ← kept_iff, decide_eq_true_iff]

end Keeping

/-- The diagnostics of a type are those of its fields, in their order, less those that a directive
on the line of the type or on their own silences. So if more lines are silenced, no diagnostic
appears, grows or moves. -/
theorem lintType_filters (settings : Settings) (positive : 1 ≤ settings.rule.minimum)
    (type : TypeDeclaration) :
    (∀ lines, lintType settings lines type =
      .ok ((checkFields type.fields settings.rule).delivered.filter (Kept lines type ·))) ∧
    ∀ lines lines', silencedLines lines ⊆ silencedLines lines' →
      ∃ found found', lintType settings lines type = .ok found ∧
        lintType settings lines' type = .ok found' ∧ found'.Sublist found := by
  refine ⟨fun lines => lintType_eq_filter positive lines type, fun lines lines' subset => ?_⟩
  refine ⟨_, _, lintType_eq_filter positive lines type, lintType_eq_filter positive lines' type, ?_⟩
  refine List.monotone_filter_right _ fun diagnostic hkept => ?_
  rw [decide_eq_true_iff] at hkept ⊢
  exact hkept.of_subset subset

theorem silencedLines_eq_empty {lines : List String}
    (h : (lines.all fun line => !lineSilences line ruleName) = true) : silencedLines lines = ∅ := by
  refine Set.eq_empty_iff_forall_notMem.2 fun number hnumber => ?_
  obtain ⟨_, line, hline, hsilences⟩ := silences_iff.1 hnumber
  have hloud := List.all_eq_true.1 h line (List.mem_of_getElem? hline)
  simp [hsilences] at hloud

/-- Two fields with a longer stem, one field without a place and one behind the last line. -/
def contactType : TypeDeclaration :=
  let place (line : Int) : Place := ⟨⟨["a.py"]⟩, line, 5, "A"⟩
  ⟨"A", place 1, [⟨"contact_home_a", .place (place 2)⟩, ⟨"contact_home_b", .place (place 3)⟩,
    ⟨"contact_c", .handle none⟩, ⟨"contact_d", .place (place 9)⟩]⟩

def plainLines : List String := ["class A:", "  contact_home_a", "  contact_home_b"]

def directedLines : List String :=
  ["class A:", "  contact_home_a", "  contact_home_b  # schemalint: ignore"]

/-- The fields that are silenced do not come back under the shorter stem. -/
theorem lintType_filters_longer_stem :
    1 ≤ Settings.default.rule.minimum ∧
    silencedLines plainLines ⊆ silencedLines directedLines ∧
    ∃ found found', lintType Settings.default plainLines contactType = .ok found ∧
      lintType Settings.default directedLines contactType = .ok found' ∧ found'.Sublist found ∧
      found.map (·.fields) = [["contact_home_a", "contact_home_b"], ["contact_c", "contact_d"]] ∧
      found'.map (·.fields) = [["contact_c", "contact_d"]] := by
  have subset : silencedLines plainLines ⊆ silencedLines directedLines := by
    rw [silencedLines_eq_empty (by decide +kernel)]
    exact Set.empty_subset _
  obtain ⟨found, found', hfound, hfound', hsublist⟩ :=
    (lintType_filters Settings.default (by decide) contactType).2 _ _ subset
  have hplain : (lintType Settings.default plainLines contactType).map (·.map (·.fields)) =
      .ok [["contact_home_a", "contact_home_b"], ["contact_c", "contact_d"]] := by decide +kernel
  have hdirected : (lintType Settings.default directedLines contactType).map (·.map (·.fields)) =
      .ok [["contact_c", "contact_d"]] := by decide +kernel
  rw [hfound] at hplain
  rw [hfound'] at hdirected
  exact ⟨by decide, subset, found, found', hfound, hfound', hsublist, Except.ok.inj hplain,
    Except.ok.inj hdirected⟩

end FieldGrouping.Lint
