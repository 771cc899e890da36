import FieldGrouping.Proofs.Lint.Completion
import FieldGrouping.Proofs.Text.Lines

/-!
Which diagnostics of a file are dropped. A directive counts on the line of the type and on the line
of the reported field. The line is looked up among the lines of the text, which is the line that the
number means in the source unless a character before its end separates lines of the text only.
-/

set_option autoImplicit false

namespace FieldGrouping.Lint

open Files (Workspace isSource)
open Source (Registry declarations Evaluates Spelled)
open Text (lines sourceLines PlainThrough isLineBreak)

/-- The numbers of the lines on which a diagnostic of a type can be silenced: that of the type and
that of the reported field. -/
def silencingLines (type : TypeDeclaration) (diagnostic : Diagnostic) : List Int :=
  match diagnostic.location with
  | .place p => [type.place.line, p.line]
  | .handle _ => [type.place.line]

/-- Whether a directive silences a diagnostic of a type whose source has some lines. -/
def isDropped (lines : List String) (type : TypeDeclaration) (diagnostic : Diagnostic) : Bool :=
  (silencingLines type diagnostic).any fun number => silences lines number ruleName

section Lookup

/-- A missing line silences as little as an empty one. -/
theorem silences_eq (lines : List String) (number : Int) (rule : String) :
    silences lines number rule =
      (decide (1 ≤ number) && lineSilences (lines[number.toNat - 1]?.getD "") rule) := by
  unfold silences lineAt?
  by_cases h : 1 ≤ number
  · simp only [h, if_true, decide_true, Bool.true_and]
    cases lines[number.toNat - 1]? <;> rfl
  · simp [h]

theorem silences_lines {text : String} {number : Int} (plain : PlainThrough text number.toNat)
    (rule : String) :
    silences (lines text) number rule = silences (sourceLines text) number rule := by
  rw [silences_eq, silences_eq]
  by_cases h : 1 ≤ number
  · have hsucc : number.toNat - 1 + 1 = number.toNat := by omega
    rw [Text.getD_lines (by rwa [hsucc])]
  · simp [h]

theorem isDropped_lines {text : String} {type : TypeDeclaration} {diagnostic : Diagnostic}
    (plain : ∀ number ∈ silencingLines type diagnostic, PlainThrough text number.toNat) :
    isDropped (lines text) type diagnostic = isDropped (sourceLines text) type diagnostic := by
  rw [isDropped, isDropped, Bool.eq_iff_iff, List.any_eq_true, List.any_eq_true]
  refine exists_congr fun number => and_congr_right fun h => ?_
  rw [silences_lines (plain number h)]

end Lookup

section Dropping

theorem rule_of_mem_delivered {groups : List Group} {diagnostic : Diagnostic}
    (h : diagnostic ∈ (deliver groups).delivered) : diagnostic.rule = ruleName := by
  fun_induction deliver groups with
  | case1 => simp at h
  | case2 => simp at h
  | case3 group groups found hd rest ih =>
    obtain ⟨last, _, rfl⟩ := Group.diagnostic_eq_ok.1 hd
    rcases List.mem_cons.1 h with rfl | h
    · rfl
    · exact ih h

theorem isDropped_eq {lines : List String} {type : TypeDeclaration} {diagnostic : Diagnostic}
    (rule : diagnostic.rule = ruleName) :
    isDropped lines type diagnostic =
      (silences lines type.place.line ruleName || isSilenced lines diagnostic) := by
  unfold isDropped silencingLines isSilenced
  cases diagnostic.location <;> simp [rule]

theorem silences_nil (number : Int) (rule : String) : silences [] number rule = false := by
  simp [silences, lineAt?]

theorem unsilenced_eq (lines : List String) (type : TypeDeclaration) {found : List Diagnostic}
    (rule : ∀ diagnostic ∈ found, diagnostic.rule = ruleName) :
    unsilenced lines type.place.line found =
      found.filter fun diagnostic => !isDropped lines type diagnostic := by
  have hdropped : (found.filter fun diagnostic => !isDropped lines type diagnostic) =
      found.filter fun diagnostic =>
        !(silences lines type.place.line ruleName || isSilenced lines diagnostic) :=
    List.filter_congr fun diagnostic hd => by rw [isDropped_eq (rule diagnostic hd)]
  rw [hdropped]
  unfold unsilenced
  cases lines with
  | nil =>
    -- Where there are no lines the filter is not applied, and it would drop nothing.
    have hnone (diagnostic : Diagnostic) : isSilenced [] diagnostic = false := by
      unfold isSilenced
      cases diagnostic.location <;> simp [silences_nil]
    simp [silences_nil, hnone]
  | cons line rest =>
    cases silences (line :: rest) type.place.line ruleName <;> simp

end Dropping

/-- A type with a directive on its line, and a name that is spelled by the name of a character. -/
def commented : String :=
  "class A(ObjectType):  # schemalint: ignore\n" ++
    "    a_x = F()\n    b = F(name='a\\N\x7bHYPHEN-MINUS\x7dy')\n"

def workspaceOf (text : String) : Workspace :=
  ⟨[.folder "w" [.file "a.py" text.toUTF8.toList]], ["w"]⟩

end FieldGrouping.Lint
