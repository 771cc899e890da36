import FieldGrouping.Lint.Run
import FieldGrouping.Proofs.Files.Discovery
import FieldGrouping.Proofs.Fallible

/-!
A run file by file. What becomes of a file does not depend on the findings that it is handed: it is
skipped, fails or is linted, and just that is added. So the findings of a run are those of its files
one after another.
-/

set_option autoImplicit false

namespace FieldGrouping.Lint

open Files (Workspace discover sourcePaths)
open Source (Registry Reader)

/-- What becomes of a file: there is no reader for it, it fails, or its types are linted. -/
inductive FileOutcome where
  | skipped
  | failed (failure : Failure)
  | linted (types : List TypeDeclaration) (found : List Diagnostic)

/-- The diagnostics of the types of a source text. -/
def typesFound (settings : Settings) (text : String) (types : List TypeDeclaration) :
    Except CheckFault (List Diagnostic) :=
  (types.mapM (lintType settings (Text.lines text))).map List.flatten

def textOutcome (reader : Reader) (settings : Settings) (path : Path) (text : String) :
    Except RunFault FileOutcome :=
  match reader.read path settings.recognition text with
  | .error (.malformed complaint) => .ok (.failed ⟨path, .malformed complaint⟩)
  | .error (.literal fault) => .error (.literal fault)
  | .ok types => ((typesFound settings text types).map (.linted types)).mapError .check

def fileOutcome (workspace : Workspace) (registry : Registry Reader) (settings : Settings)
    (path : Path) : Except RunFault FileOutcome :=
  match registry.forExtension? path.suffix with
  | none => .ok .skipped
  | some reader =>
    if path.hasNull then .error .nullInPath
    else
      match workspace.readText path with
      | .error fault => .ok (.failed ⟨path, .unreadable fault⟩)
      | .ok text => textOutcome reader settings path text

namespace Findings

def append (a b : Findings) : Findings :=
  ⟨a.diagnostics ++ b.diagnostics, a.failures ++ b.failures, a.files + b.files, a.types + b.types⟩

def ofOutcome : FileOutcome → Findings
  | .skipped => empty
  | .failed failure => ⟨[], [failure], 0, 0⟩
  | .linted types found => ⟨found, [], 1, types.length⟩

/-- The findings of several files. -/
def ofOutcomes : List FileOutcome → Findings
  | [] => empty
  | outcome :: rest => (ofOutcome outcome).append (ofOutcomes rest)

theorem empty_append (a : Findings) : empty.append a = a := by
  simp [empty, append]

theorem append_empty (a : Findings) : a.append empty = a := by
  simp [empty, append]

theorem append_assoc (a b c : Findings) :
    (a.append b).append c = a.append (b.append c) := by
  simp [append, Nat.add_assoc]

end Findings

section Threading

variable {workspace : Workspace} {registry : Registry Reader} {settings : Settings}

theorem lintTypes_eq (lines : List String) (findings : Findings) (types : List TypeDeclaration) :
    lintTypes settings lines findings types =
      ((types.mapM (lintType settings lines)).map fun parts =>
        findings.append ⟨parts.flatten, [], 0, types.length⟩).mapError .check := by
  -- Each type is linted with the findings of those before it, so these are general.
  induction types generalizing findings with
  | nil => exact congrArg Except.ok (Findings.append_empty findings).symm
  | cons type types ih =>
    rw [lintTypes, List.mapM_cons]
    cases lintType settings lines type with
    | error fault => rfl
    | ok found =>
      simp only [ih]
      cases types.mapM (lintType settings lines) with
      | error fault => rfl
      | ok parts =>
        simp [bind, Except.bind, pure, Except.pure, Except.map, Except.mapError,
          Findings.addType, Findings.append, Nat.add_assoc, Nat.add_comm 1]

theorem lintText_eq (reader : Reader) (findings : Findings) (path : Path) (text : String) :
    lintText reader settings findings path text =
      (textOutcome reader settings path text).map fun outcome =>
        findings.append (.ofOutcome outcome) := by
  unfold lintText textOutcome
  cases reader.read path settings.recognition text with
  | error fault =>
    cases fault <;> simp [Except.map, Findings.addFailure, Findings.ofOutcome, Findings.append]
  | ok types =>
    simp only [lintTypes_eq, typesFound]
    cases types.mapM (lintType settings (Text.lines text)) <;>
      simp [Except.map, Except.mapError, Findings.addFile, Findings.ofOutcome, Findings.append]

/-- One file: what becomes of it is added to the findings so far. -/
theorem lintFile_eq (findings : Findings) (path : Path) :
    lintFile workspace registry settings findings path =
      (fileOutcome workspace registry settings path).map fun outcome =>
        findings.append (.ofOutcome outcome) := by
  unfold lintFile fileOutcome
  cases registry.forExtension? path.suffix with
  | none => exact congrArg Except.ok (Findings.append_empty findings).symm
  | some reader =>
    cases path.hasNull with
    | true => rfl
    | false =>
      cases workspace.readText path with
      | error fault =>
        simp [Except.map, Findings.addFailure, Findings.ofOutcome, Findings.append]
      | ok text => exact lintText_eq reader findings path text

/-- All files: what becomes of each is added in its turn. -/
theorem foldlM_lintFile (paths : List Path) (findings : Findings) :
    paths.foldlM (lintFile workspace registry settings) findings =
      (paths.mapM (fileOutcome workspace registry settings)).map fun outcomes =>
        findings.append (.ofOutcomes outcomes) := by
  -- As for the types of a file, the findings so far are general.
  induction paths generalizing findings with
  | nil => exact congrArg Except.ok (Findings.append_empty findings).symm
  | cons path paths ih =>
    rw [List.foldlM_cons, List.mapM_cons, lintFile_eq]
    cases fileOutcome workspace registry settings path with
    | error fault => rfl
    | ok outcome =>
      simp only [Except.map, bind, Except.bind, ih]
      cases paths.mapM (fileOutcome workspace registry settings) <;>
        simp [pure, Except.pure, Findings.ofOutcomes, Findings.append_assoc]

/-- A run is the discovery of its files and then, file by file, what becomes of them. -/
theorem lintPaths_eq (paths : List Path) :
    lintPaths workspace registry settings paths = (do
      let found ← (discover workspace registry settings paths).mapError (.tooLong ·.path)
      let outcomes ← found.mapM (fileOutcome workspace registry settings)
      return .ofOutcomes outcomes) := by
  unfold lintPaths
  cases discover workspace registry settings paths with
  | error refused => rfl
  | ok found =>
    simp only [foldlM_lintFile, Findings.empty_append]
    rfl

theorem lintPaths_eq_ok_iff {paths : List Path} {findings : Findings} :
    lintPaths workspace registry settings paths = .ok findings ↔
      (∀ path ∈ paths, workspace.refuses path = false) ∧
      ∃ outcomes,
        List.Forall₂ (fun path outcome =>
          fileOutcome workspace registry settings path = .ok outcome)
          (sourcePaths workspace registry settings paths) outcomes ∧
        findings = Findings.ofOutcomes outcomes := by
  simp only [lintPaths_eq, bind_eq_ok_iff, mapError_eq_ok_iff, Files.discover_eq_ok_iff,
    mapM_eq_ok_iff]
  constructor
  · rintro ⟨_, ⟨followed, rfl⟩, outcomes, houtcomes, heq⟩
    cases heq
    exact ⟨followed, outcomes, houtcomes, rfl⟩
  · rintro ⟨followed, outcomes, houtcomes, rfl⟩
    exact ⟨_, ⟨followed, rfl⟩, outcomes, houtcomes, rfl⟩

end Threading

end FieldGrouping.Lint
