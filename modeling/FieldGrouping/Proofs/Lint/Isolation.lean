import FieldGrouping.Proofs.Files.Overwriting
import FieldGrouping.Proofs.Lint.Completion
import FieldGrouping.Proofs.Source.Fields

/-!
What the findings of a run are made of. A source that is understood gives the diagnostics of its
types one after another, any other gives one failure and nothing else. Both depend on the content
of that source only, so that another content of one file changes nothing that is found elsewhere.
-/

set_option autoImplicit false

namespace FieldGrouping.Lint

open Files (Workspace isSource sourcePaths)
open Source (Registry Reader declarations)

/-- A source that is understood: its text, and the types that it declares. -/
structure Understood where
  text : String
  types : List TypeDeclaration

def understood? (host : Host) (workspace : Workspace) (settings : Settings) (path : Path) :
    Option Understood :=
  match workspace.readText path with
  | .error _ => none
  | .ok text =>
    match declarations host path settings.recognition text with
    | .error _ => none
    | .ok types => some ⟨text, types⟩

/-- The diagnostics of a type of an understood source. -/
def Understood.typeFound (settings : Settings) (source : Understood) (type : TypeDeclaration) :
    List Diagnostic :=
  (lintType settings (Text.lines source.text) type).toOption.getD []

/-- Findings in which each of some sources counts once: as a failure, or with the diagnostics and
the types of its own. -/
structure Tallies (host : Host) (workspace : Workspace) (settings : Settings)
    (sources : List Path) (findings : Findings) : Prop where
  each : findings.files + findings.failures.length = sources.length
  failures : findings.failures.map (·.path) =
    sources.filter fun path => (understood? host workspace settings path).isNone
  diagnostics : findings.diagnostics =
    (sources.filterMap (understood? host workspace settings)).flatMap fun source =>
      source.types.flatMap (source.typeFound settings)
  checked : ∀ source ∈ sources.filterMap (understood? host workspace settings),
    ∀ type ∈ source.types, ∃ found, lintType settings (Text.lines source.text) type = .ok found
  types : findings.types =
    ((sources.filterMap (understood? host workspace settings)).flatMap (·.types)).length

section Tally

variable {host : Host} {workspace : Workspace} {settings : Settings}

theorem typesFound_eq_ok {text : String} {types : List TypeDeclaration} {found : List Diagnostic}
    (h : typesFound settings text types = .ok found) :
    (∀ type ∈ types, ∃ found, lintType settings (Text.lines text) type = .ok found) ∧
      found = types.flatMap (Understood.typeFound settings ⟨text, types⟩) := by
  unfold typesFound at h
  obtain ⟨parts, hparts, rfl⟩ := map_eq_ok_iff.1 h
  have heach := mapM_eq_ok_iff.1 hparts
  refine ⟨fun type ht => ?_, ?_⟩
  · obtain ⟨part, _, hpart⟩ := exists_right_of_mem heach ht
    exact ⟨part, hpart⟩
  · have hmap : parts = types.map (Understood.typeFound settings ⟨text, types⟩) := by
      rw [← List.forall₂_eq_eq_eq, List.forall₂_map_right_iff]
      refine heach.flip.imp fun part type hpart => ?_
      simp [Understood.typeFound, hpart, Except.toOption]
    rw [hmap, List.flatMap_def]

theorem tallies_failed {path : Path} {failure : Failure} (at_path : failure.path = path)
    (missing : understood? host workspace settings path = none) :
    Tallies host workspace settings [path] (Findings.ofOutcome (.failed failure)) where
  each := rfl
  failures := by simp [Findings.ofOutcome, missing, at_path]
  diagnostics := by simp [Findings.ofOutcome, missing]
  checked := by simp [missing]
  types := by simp [Findings.ofOutcome, missing]

theorem Settles.tallies {path : Path} {outcome : FileOutcome}
    (h : Settles host workspace settings path outcome) :
    Tallies host workspace settings ([path].filter (isSource (Registry.standard host)))
      (Findings.ofOutcome outcome) := by
  cases h with
  | skipped other =>
    rw [List.filter_singleton, other]
    exact ⟨rfl, rfl, rfl, by simp, rfl⟩
  | unreadable source named read =>
    rw [List.filter_singleton, source]
    exact tallies_failed rfl (by simp [understood?, read])
  | @malformed source named text read unparsed =>
    have hmalformed : declarations host path settings.recognition text =
        .error (.malformed (host.sourceComplaint text)) :=
      Source.declarations_eq_malformed_iff.2 ⟨unparsed, rfl⟩
    rw [List.filter_singleton, source]
    exact tallies_failed rfl (by simp [understood?, read, hmalformed])
  | @linted source named text read types declared found checked =>
    have hsome : understood? host workspace settings path = some ⟨text, types⟩ := by
      simp [understood?, read, declared]
    obtain ⟨hchecked, rfl⟩ := typesFound_eq_ok checked
    rw [List.filter_singleton, source]
    exact ⟨rfl, by simp [Findings.ofOutcome, hsome], by simp [Findings.ofOutcome, hsome],
      by simpa [hsome] using hchecked, by simp [Findings.ofOutcome, hsome]⟩

theorem Tallies.append {before after : List Path} {a b : Findings}
    (ha : Tallies host workspace settings before a) (hb : Tallies host workspace settings after b) :
    Tallies host workspace settings (before ++ after) (a.append b) where
  each := by
    have := ha.each
    have := hb.each
    simp only [Findings.append, List.length_append]
    omega
  failures := by simp [Findings.append, ha.failures, hb.failures]
  diagnostics := by simp [Findings.append, ha.diagnostics, hb.diagnostics]
  checked := by
    intro source hs
    rw [List.filterMap_append, List.mem_append] at hs
    exact hs.elim (ha.checked source) (hb.checked source)
  types := by simp [Findings.append, ha.types, hb.types]

theorem tallies_ofOutcomes {paths : List Path} {outcomes : List FileOutcome}
    (h : List.Forall₂ (Settles host workspace settings) paths outcomes) :
    Tallies host workspace settings (paths.filter (isSource (Registry.standard host)))
      (Findings.ofOutcomes outcomes) := by
  induction h with
  | nil => exact ⟨rfl, rfl, rfl, by simp, rfl⟩
  | @cons path outcome rest _ hfile _ ih =>
    rw [← List.singleton_append, List.filter_append]
    exact hfile.tallies.append ih

end Tally

/-! ### What is found in one file -/

/-- The path of the source that a diagnostic points into. -/
def reportedIn? (diagnostic : Diagnostic) : Option Path :=
  match diagnostic.location with
  | .place p => some p.path
  | .handle _ => none

section OneFile

variable {host : Host} {workspace : Workspace} {settings : Settings} {path : Path}

theorem mem_of_mem_unsilenced {lines : List String} {line : Int} {found : List Diagnostic}
    {diagnostic : Diagnostic} (h : diagnostic ∈ unsilenced lines line found) :
    diagnostic ∈ found := by
  unfold unsilenced at h
  split at h
  · exact h
  · split at h
    · simp at h
    · exact List.mem_of_mem_filter h

/-- A diagnostic of a source is located at a field that its stem covers. -/
theorem exists_field_of_mem_typesFound {text : String} {types : List TypeDeclaration}
    {found : List Diagnostic} (checked : typesFound settings text types = .ok found)
    {diagnostic : Diagnostic} (mem : diagnostic ∈ found) :
    ∃ type ∈ types, ∃ field ∈ type.fields,
      diagnostic.location = field.location ∧ Covers diagnostic.stem field.name := by
  unfold typesFound at checked
  obtain ⟨parts, hparts, rfl⟩ := map_eq_ok_iff.1 checked
  obtain ⟨part, hpart, hd⟩ := List.mem_flatten.1 mem
  obtain ⟨type, htype, hlint⟩ := exists_left_of_mem (mapM_eq_ok_iff.1 hparts) hpart
  obtain ⟨all, hall, rfl⟩ := map_eq_ok_iff.1 hlint
  exact ⟨type, htype, exists_field_of_mem_diagnostics hall (mem_of_mem_unsilenced hd)⟩

theorem location_of_declarations {text : String} {types : List TypeDeclaration}
    (declared : declarations host path settings.recognition text = .ok types)
    {type : TypeDeclaration} (htype : type ∈ types) {field : Field} (hfield : field ∈ type.fields) :
    ∃ p : Place, field.location = .place p ∧ p.path = path := by
  obtain ⟨statements, _, hin⟩ := Source.declarations_eq_ok_iff.1 declared
  obtain ⟨definition, _, hdeclares⟩ :=
    exists_left_of_mem (Source.declarationsIn_eq_ok_iff.1 hin) htype
  obtain ⟨fields, hfields, rfl⟩ := Source.declaration_eq_ok_iff.1 hdeclares
  obtain ⟨word, hword⟩ := Source.location_of_mem_fieldsIn hfields hfield
  exact ⟨_, hword, rfl⟩

theorem exists_linted_of_mem_foundAt {diagnostic : Diagnostic}
    (h : diagnostic ∈ foundAt host workspace settings path) :
    ∃ text types found, workspace.readText path = .ok text ∧
      declarations host path settings.recognition text = .ok types ∧
      typesFound settings text types = .ok found ∧ diagnostic ∈ found := by
  unfold foundAt at h
  cases hfile : fileOutcome workspace (Registry.standard host) settings path with
  | error fault => simp [hfile] at h
  | ok outcome =>
    rw [hfile] at h
    cases fileOutcome_eq_ok_iff.1 hfile with
    | skipped | unreadable | malformed => simp [Findings.ofOutcome, Findings.empty] at h
    | linted source named read declared checked => exact ⟨_, _, _, read, declared, checked, h⟩

theorem foundAt_eq_nil (h : (failureAt? host workspace path).isSome) :
    foundAt host workspace settings path = [] := by
  rw [List.eq_nil_iff_forall_not_mem]
  intro diagnostic hd
  obtain ⟨text, types, found, read, declared, _⟩ := exists_linted_of_mem_foundAt hd
  obtain ⟨statements, hparsed, _⟩ := Source.evaluates_of_declarations declared
  simp [failureAt?, read, hparsed] at h

theorem reportedIn?_of_mem_foundAt {diagnostic : Diagnostic}
    (h : diagnostic ∈ foundAt host workspace settings path) :
    reportedIn? diagnostic = some path := by
  obtain ⟨text, types, found, _, declared, checked, hd⟩ := exists_linted_of_mem_foundAt h
  obtain ⟨type, htype, field, hfield, hat, _⟩ := exists_field_of_mem_typesFound checked hd
  obtain ⟨p, hp, rfl⟩ := location_of_declarations declared htype hfield
  simp [reportedIn?, hat, hp]

theorem path_of_failureAt? {failure : Failure} (h : failureAt? host workspace path = some failure) :
    failure.path = path := by
  unfold failureAt? at h
  split at h
  · cases h
    rfl
  · split at h
    · cases h
      rfl
    · cases h

variable {place : List String} {bytes : List UInt8}

theorem failureAt?_overwrite (h : workspace.leadsTo place path = false) :
    failureAt? host (workspace.overwrite place bytes) path = failureAt? host workspace path := by
  rw [failureAt?, Files.readText_overwrite h, failureAt?]

theorem foundAt_overwrite (h : workspace.leadsTo place path = false) :
    foundAt host (workspace.overwrite place bytes) settings path =
      foundAt host workspace settings path := by
  have hfile : fileOutcome (workspace.overwrite place bytes) (Registry.standard host) settings
      path = fileOutcome workspace (Registry.standard host) settings path := by
    unfold fileOutcome
    rw [Files.readText_overwrite h]
  unfold foundAt
  rw [hfile]

end OneFile

/-! ### What is found in some of the files -/

section Elsewhere

variable {host : Host} {workspace : Workspace} {settings : Settings}

theorem filter_flatMap_foundAt (keep : Path → Bool) (sources : List Path) :
    (sources.flatMap (foundAt host workspace settings)).filter
        (fun diagnostic => (reportedIn? diagnostic).any keep) =
      (sources.filter keep).flatMap (foundAt host workspace settings) := by
  induction sources with
  | nil => rfl
  | cons path rest ih =>
    -- All that is found in a file points into it, and is kept or dropped together.
    have hpath : (foundAt host workspace settings path).filter
        (fun diagnostic => (reportedIn? diagnostic).any keep) =
        if keep path then foundAt host workspace settings path else [] := by
      cases hk : keep path with
      | true =>
        rw [if_pos rfl, List.filter_eq_self]
        intro diagnostic hd
        simp [reportedIn?_of_mem_foundAt hd, hk]
      | false =>
        rw [if_neg Bool.false_ne_true, List.filter_eq_nil_iff]
        intro diagnostic hd
        simp [reportedIn?_of_mem_foundAt hd, hk]
    rw [List.flatMap_cons, List.filter_append, ih, hpath, List.filter_cons]
    split <;> simp

theorem filter_filterMap_failureAt? (keep : Path → Bool) (sources : List Path) :
    (sources.filterMap (failureAt? host workspace)).filter (fun failure => keep failure.path) =
      (sources.filter keep).filterMap (failureAt? host workspace) := by
  induction sources with
  | nil => rfl
  | cons path rest ih =>
    cases hf : failureAt? host workspace path with
    | none => cases hk : keep path <;> simp [hf, hk, ih]
    | some failure =>
      have hpath := path_of_failureAt? hf
      cases hk : keep path <;> simp [hf, hk, hpath, ih]

/-- The findings of the sources that are not the file at a place are the same in both trees. -/
theorem Accounts.elsewhere {sources : List Path} {place : List String} {bytes : List UInt8}
    {findings changed : Findings} (h : Accounts host workspace settings sources findings)
    (h' : Accounts host (workspace.overwrite place bytes) settings sources changed) :
    (changed.diagnostics.filter fun diagnostic =>
        (reportedIn? diagnostic).any (!workspace.leadsTo place ·)) =
      (findings.diagnostics.filter fun diagnostic =>
        (reportedIn? diagnostic).any (!workspace.leadsTo place ·)) ∧
    (changed.failures.filter fun failure => !workspace.leadsTo place failure.path) =
      findings.failures.filter fun failure => !workspace.leadsTo place failure.path := by
  rw [h.diagnostics, h'.diagnostics, h.failures, h'.failures]
  simp only [filter_flatMap_foundAt, filter_filterMap_failureAt? (!workspace.leadsTo place ·)]
  have hother (path : Path) (hp : path ∈ sources.filter (!workspace.leadsTo place ·)) :
      workspace.leadsTo place path = false := by
    simpa using (List.mem_filter.1 hp).2
  constructor
  · rw [List.flatMap_def, List.flatMap_def,
      List.map_congr_left fun path hp => foundAt_overwrite (hother path hp)]
  · exact List.filterMap_congr fun path hp => failureAt?_overwrite (hother path hp)

theorem Accounts.apart {sources : List Path} {findings : Findings}
    (h : Accounts host workspace settings sources findings) {failure : Failure}
    (failed : failure ∈ findings.failures) {diagnostic : Diagnostic}
    (mem : diagnostic ∈ findings.diagnostics) : reportedIn? diagnostic ≠ some failure.path := by
  rw [h.failures] at failed
  rw [h.diagnostics] at mem
  obtain ⟨path, _, hf⟩ := List.mem_filterMap.1 failed
  obtain ⟨other, _, hd⟩ := List.mem_flatMap.1 mem
  intro hsame
  obtain rfl : other = failure.path := by
    simpa [reportedIn?_of_mem_foundAt hd] using hsame
  rw [path_of_failureAt? hf] at hd
  rw [foundAt_eq_nil (Option.isSome_of_mem hf)] at hd
  simp at hd

end Elsewhere

/-- A file that is not well formed, and two with a group each; a name is spelled by the name of a
character. -/
def threeFiles : Workspace where
  root := [.folder "w" [.file "a.py" "class\n".toUTF8.toList,
    .file "b.py" ("class B(ObjectType): a_x = F(); " ++
      "b = F(name='a\\N\x7bHYPHEN-MINUS\x7dy')\n").toUTF8.toList,
    .folder "s" [.file "c.py" "class C(ObjectType): b_x = F(); b_y = F()\n".toUTF8.toList]]]
  directory := ["w"]

end FieldGrouping.Lint
