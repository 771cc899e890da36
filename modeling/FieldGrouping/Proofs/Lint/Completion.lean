import FieldGrouping.Proofs.Lint.Outcomes
import FieldGrouping.Proofs.Rule.Report
import FieldGrouping.Proofs.Source.Faults

/-!
Which runs come to an end. A source that cannot be read or is not well formed is recorded as a
failure, and the run goes on with the other files. Three things end a run: a path that is refused, a
path with a null character, and a field of a recognised definition that is named by a malformed
literal. Names with surrogates are left out of account, since they are no texts.
-/

set_option autoImplicit false

namespace FieldGrouping.Lint

open Files (Workspace isSource sourcePaths)
open Source (Registry Reader parse? definitionsIn declarations Spelled)

/-! ### One file -/

/-- What becomes of a file that does not end a run. -/
inductive Settles (host : Host) (workspace : Workspace) (settings : Settings) (path : Path) :
    FileOutcome → Prop
  | skipped (other : isSource (Registry.standard host) path = false) :
    Settles host workspace settings path .skipped
  | unreadable (source : isSource (Registry.standard host) path = true)
    (named : path.hasNull = false) {fault : Files.ReadFault}
    (read : workspace.readText path = .error fault) :
    Settles host workspace settings path (.failed ⟨path, .unreadable fault⟩)
  | malformed (source : isSource (Registry.standard host) path = true)
    (named : path.hasNull = false) {text : String} (read : workspace.readText path = .ok text)
    (unparsed : parse? text = none) :
    Settles host workspace settings path (.failed ⟨path, .malformed (host.sourceComplaint text)⟩)
  | linted (source : isSource (Registry.standard host) path = true)
    (named : path.hasNull = false) {text : String} (read : workspace.readText path = .ok text)
    {types : List TypeDeclaration}
    (declared : declarations host path settings.recognition text = .ok types)
    {found : List Diagnostic} (checked : typesFound settings text types = .ok found) :
    Settles host workspace settings path (.linted types found)

/-- A file that ends a run. -/
def Aborts (host : Host) (workspace : Workspace) (settings : Settings) (path : Path) : Prop :=
  isSource (Registry.standard host) path = true ∧
    (path.hasNull = true ∨
      ∃ text statements, workspace.readText path = .ok text ∧ parse? text = some statements ∧
        ∃ definition ∈ definitionsIn [] statements,
          definition.isRecognised settings.recognition = true ∧
            definition.Faulty host (· ≠ .surrogate))

/-- A file in which no name has a surrogate. -/
def SpelledAt (host : Host) (workspace : Workspace) (settings : Settings) (path : Path) : Prop :=
  ∀ text, workspace.readText path = .ok text → Spelled host settings.recognition text

section File

variable {host : Host} {workspace : Workspace} {settings : Settings} {path : Path}

theorem forExtension?_standard :
    (Registry.standard host).forExtension? path.suffix =
      if isSource (Registry.standard host) path then some (Reader.python host) else none := by
  rw [isSource, Registry.standard, Registry.forExtension?_register]
  split <;> rfl

theorem read_python {text : String} :
    (Reader.python host).read path settings.recognition text =
      declarations host path settings.recognition text :=
  rfl

theorem fileOutcome_of_not_isSource (other : isSource (Registry.standard host) path = false) :
    fileOutcome workspace (Registry.standard host) settings path = .ok .skipped := by
  rw [fileOutcome, forExtension?_standard, other]
  rfl

theorem fileOutcome_of_hasNull (source : isSource (Registry.standard host) path = true)
    (null : path.hasNull = true) :
    fileOutcome workspace (Registry.standard host) settings path = .error .nullInPath := by
  rw [fileOutcome, forExtension?_standard, source, null]
  rfl

theorem fileOutcome_of_isSource (source : isSource (Registry.standard host) path = true)
    (named : path.hasNull = false) :
    fileOutcome workspace (Registry.standard host) settings path =
      match workspace.readText path with
      | .error fault => .ok (.failed ⟨path, .unreadable fault⟩)
      | .ok text => textOutcome (Reader.python host) settings path text := by
  rw [fileOutcome, forExtension?_standard, source, named]
  rfl

theorem textOutcome_eq_ok_iff {text : String} {outcome : FileOutcome} :
    textOutcome (Reader.python host) settings path text = .ok outcome ↔
      (parse? text = none ∧ outcome = .failed ⟨path, .malformed (host.sourceComplaint text)⟩) ∨
        ∃ types found, declarations host path settings.recognition text = .ok types ∧
          typesFound settings text types = .ok found ∧ outcome = .linted types found := by
  rw [textOutcome, read_python]
  cases hp : parse? text with
  | none =>
    have hd : declarations host path settings.recognition text =
        .error (.malformed (host.sourceComplaint text)) :=
      Source.declarations_eq_malformed_iff.2 ⟨hp, rfl⟩
    simp [hd, eq_comm]
  | some statements =>
    cases hd : declarations host path settings.recognition text with
    | error fault =>
      cases fault with
      | malformed complaint => simp [Source.declarations_eq_malformed_iff, hp] at hd
      | literal fault => simp
    | ok types => simp [mapError_eq_ok_iff, map_eq_ok_iff]

/-- A file is settled in just the ways above. -/
theorem fileOutcome_eq_ok_iff {outcome : FileOutcome} :
    fileOutcome workspace (Registry.standard host) settings path = .ok outcome ↔
      Settles host workspace settings path outcome := by
  constructor
  · intro h
    cases hs : isSource (Registry.standard host) path with
    | false =>
      rw [fileOutcome_of_not_isSource hs] at h
      cases h
      exact .skipped hs
    | true =>
      cases hn : path.hasNull with
      | true =>
        rw [fileOutcome_of_hasNull hs hn] at h
        cases h
      | false =>
        rw [fileOutcome_of_isSource hs hn] at h
        cases hr : workspace.readText path with
        | error fault =>
          simp only [hr] at h
          cases h
          exact .unreadable hs hn hr
        | ok text =>
          simp only [hr] at h
          rcases textOutcome_eq_ok_iff.1 h with ⟨hp, rfl⟩ | ⟨types, found, hd, hc, rfl⟩
          · exact .malformed hs hn hr hp
          · exact .linted hs hn hr hd hc
  · intro h
    cases h with
    | skipped hs => exact fileOutcome_of_not_isSource hs
    | unreadable hs hn hr => rw [fileOutcome_of_isSource hs hn, hr]
    | malformed hs hn hr hp =>
      rw [fileOutcome_of_isSource hs hn, hr]
      exact textOutcome_eq_ok_iff.2 (.inl ⟨hp, rfl⟩)
    | linted hs hn hr hd hc =>
      rw [fileOutcome_of_isSource hs hn, hr]
      exact textOutcome_eq_ok_iff.2 (.inr ⟨_, _, hd, hc, rfl⟩)

theorem lintType_eq (positive : 1 ≤ settings.rule.minimum) (lines : List String)
    (type : TypeDeclaration) :
    lintType settings lines type =
      .ok (unsilenced lines type.place.line (checkFields type.fields settings.rule).delivered) := by
  rw [lintType, diagnostics_eq positive, checkFields,
    deliver_eq (members_ne_nil_of_reported positive)]
  rfl

/-- With a minimum of at least one, no type ends the check of a source. -/
theorem typesFound_eq (positive : 1 ≤ settings.rule.minimum) (text : String)
    (types : List TypeDeclaration) :
    typesFound settings text types =
      .ok (types.flatMap fun type => unsilenced (Text.lines text) type.place.line
        (checkFields type.fields settings.rule).delivered) := by
  have htypes : types.mapM (lintType settings (Text.lines text)) =
      .ok (types.map fun type => unsilenced (Text.lines text) type.place.line
        (checkFields type.fields settings.rule).delivered) := by
    rw [mapM_eq_ok_iff, List.forall₂_map_right_iff, List.forall₂_same]
    exact fun type _ => lintType_eq positive _ type
  rw [typesFound, htypes]
  rfl

theorem Settles.not_aborts {outcome : FileOutcome}
    (h : Settles host workspace settings path outcome) : ¬ Aborts host workspace settings path := by
  rintro ⟨hs, ha⟩
  cases h with
  | skipped other => simp [hs] at other
  | unreadable source named read =>
    rcases ha with hn | ⟨text, statements, hr, _⟩
    · simp [named] at hn
    · simp [read] at hr
  | malformed source named read unparsed =>
    rcases ha with hn | ⟨text, statements, hr, hp, _⟩
    · simp [named] at hn
    · rw [read] at hr
      cases hr
      simp [unparsed] at hp
  | linted source named read declared checked =>
    rcases ha with hn | ⟨text, statements, hr, hp, definition, hd, hrec, hf⟩
    · simp [named] at hn
    · rw [read] at hr
      cases hr
      obtain ⟨others, ho, hfree⟩ := Source.evaluates_of_declarations declared
      rw [hp] at ho
      cases ho
      exact hfree definition hd hrec hf

theorem exists_settles (positive : 1 ≤ settings.rule.minimum)
    (spelled : SpelledAt host workspace settings path)
    (h : ¬ Aborts host workspace settings path) :
    ∃ outcome, Settles host workspace settings path outcome := by
  cases hs : isSource (Registry.standard host) path with
  | false => exact ⟨_, .skipped hs⟩
  | true =>
    have hn : path.hasNull = false := by
      cases hn : path.hasNull with
      | false => rfl
      | true => exact absurd ⟨hs, .inl hn⟩ h
    cases hr : workspace.readText path with
    | error fault => exact ⟨_, .unreadable hs hn hr⟩
    | ok text =>
      cases hp : parse? text with
      | none => exact ⟨_, .malformed hs hn hr hp⟩
      | some statements =>
        have hevaluates : Source.Evaluates host settings.recognition text := by
          refine ⟨statements, hp, fun definition hd hrec hf => h ?_⟩
          exact ⟨hs, .inr ⟨text, statements, hr, hp, definition, hd, hrec, hf⟩⟩
        -- The names do not end the run, so the text has types; a check of them cannot fail.
        obtain ⟨types, hd⟩ := Source.exists_declarations path hevaluates (spelled text hr)
        exact ⟨_, .linted hs hn hr hd (typesFound_eq positive text types)⟩

/-- Only a name with a surrogate ends the reading of a file for its sake. -/
theorem not_spelledAt_of_fileOutcome
    (h : fileOutcome workspace (Registry.standard host) settings path =
      .error (.literal .surrogate)) :
    isSource (Registry.standard host) path = true ∧ ¬ SpelledAt host workspace settings path := by
  cases hs : isSource (Registry.standard host) path with
  | false =>
    rw [fileOutcome_of_not_isSource hs] at h
    cases h
  | true =>
    refine ⟨rfl, fun spelled => ?_⟩
    cases hn : path.hasNull with
    | true =>
      rw [fileOutcome_of_hasNull hs hn] at h
      cases h
    | false =>
      rw [fileOutcome_of_isSource hs hn] at h
      cases hr : workspace.readText path with
      | error fault => simp [hr] at h
      | ok text =>
        simp only [hr, textOutcome, read_python] at h
        split at h
        · cases h
        · next fault hd =>
          cases h
          exact Source.not_spelled_of_declarations hd (spelled text hr)
        · obtain ⟨fault, _, heq⟩ := mapError_eq_error_iff.1 h
          cases heq

end File

/-! ### A run -/

/-- The sources that some paths stand for. -/
def sourcesIn (host : Host) (workspace : Workspace) (settings : Settings) (paths : List Path) :
    List Path :=
  (sourcePaths workspace (Registry.standard host) settings paths).filter
    (isSource (Registry.standard host))

/-- In the sources that some paths stand for, no name has a surrogate. -/
def SpelledIn (host : Host) (workspace : Workspace) (settings : Settings) (paths : List Path) :
    Prop :=
  ∀ path ∈ sourcesIn host workspace settings paths, SpelledAt host workspace settings path

/-- The failure of a source that cannot be read or is not well formed. -/
def failureAt? (host : Host) (workspace : Workspace) (path : Path) : Option Failure :=
  match workspace.readText path with
  | .error fault => some ⟨path, .unreadable fault⟩
  | .ok text =>
    if (parse? text).isNone then some ⟨path, .malformed (host.sourceComplaint text)⟩ else none

/-- The diagnostics of a file on its own. -/
def foundAt (host : Host) (workspace : Workspace) (settings : Settings) (path : Path) :
    List Diagnostic :=
  match fileOutcome workspace (Registry.standard host) settings path with
  | .ok outcome => (Findings.ofOutcome outcome).diagnostics
  | .error _ => []

/-- Findings that leave out none of some sources: each has its failure, or counts as linted and
has its own diagnostics in its turn. -/
structure Accounts (host : Host) (workspace : Workspace) (settings : Settings)
    (sources : List Path) (findings : Findings) : Prop where
  failures : findings.failures = sources.filterMap (failureAt? host workspace)
  files : findings.files = sources.countP fun path => (failureAt? host workspace path).isNone
  diagnostics : findings.diagnostics = sources.flatMap (foundAt host workspace settings)

section Run

variable {host : Host} {workspace : Workspace} {settings : Settings}

theorem Accounts.append {before after : List Path} {a b : Findings}
    (ha : Accounts host workspace settings before a)
    (hb : Accounts host workspace settings after b) :
    Accounts host workspace settings (before ++ after) (a.append b) where
  failures := by simp [Findings.append, ha.failures, hb.failures]
  files := by simp [Findings.append, ha.files, hb.files]
  diagnostics := by simp [Findings.append, ha.diagnostics, hb.diagnostics]

theorem accounts_singleton {path : Path} {findings : Findings}
    (failures : findings.failures = (failureAt? host workspace path).toList)
    (files : findings.files = if (failureAt? host workspace path).isNone then 1 else 0)
    (diagnostics : findings.diagnostics = foundAt host workspace settings path) :
    Accounts host workspace settings [path] findings where
  failures := by
    rw [failures]
    cases h : failureAt? host workspace path <;> simp [h]
  files := by rw [files, List.countP_singleton]
  diagnostics := by simp [diagnostics]

theorem Settles.accounts {path : Path} {outcome : FileOutcome}
    (h : Settles host workspace settings path outcome) :
    Accounts host workspace settings ([path].filter (isSource (Registry.standard host)))
      (Findings.ofOutcome outcome) := by
  have hfound : (Findings.ofOutcome outcome).diagnostics =
      foundAt host workspace settings path := by
    unfold foundAt
    rw [fileOutcome_eq_ok_iff.2 h]
  cases h with
  | skipped other =>
    rw [List.filter_singleton, other]
    exact ⟨rfl, rfl, rfl⟩
  | @unreadable source named fault read =>
    have hfail : failureAt? host workspace path = some ⟨path, .unreadable fault⟩ := by
      simp only [failureAt?, read]
    rw [List.filter_singleton, source]
    exact accounts_singleton (by rw [hfail]; rfl) (by rw [hfail]; rfl) hfound
  | @malformed source named text read unparsed =>
    have hfail : failureAt? host workspace path =
        some ⟨path, .malformed (host.sourceComplaint text)⟩ := by
      simp [failureAt?, read, unparsed]
    rw [List.filter_singleton, source]
    exact accounts_singleton (by rw [hfail]; rfl) (by rw [hfail]; rfl) hfound
  | linted source named read declared checked =>
    obtain ⟨statements, hp, _⟩ := Source.evaluates_of_declarations declared
    have hfail : failureAt? host workspace path = none := by simp [failureAt?, read, hp]
    rw [List.filter_singleton, source]
    exact accounts_singleton (by rw [hfail]; rfl) (by rw [hfail]; rfl) hfound

theorem accounts_ofOutcomes {paths : List Path} {outcomes : List FileOutcome}
    (h : List.Forall₂ (Settles host workspace settings) paths outcomes) :
    Accounts host workspace settings (paths.filter (isSource (Registry.standard host)))
      (Findings.ofOutcomes outcomes) := by
  induction h with
  | nil => exact ⟨rfl, rfl, rfl⟩
  | @cons path outcome rest _ hfile _ ih =>
    rw [← List.singleton_append, List.filter_append]
    exact hfile.accounts.append ih

/-- In a run that comes to an end every file is settled. -/
theorem settles_of_lintPaths {paths : List Path} {findings : Findings}
    (h : lintPaths workspace (Registry.standard host) settings paths = .ok findings) :
    ∃ outcomes, List.Forall₂ (Settles host workspace settings)
      (sourcePaths workspace (Registry.standard host) settings paths) outcomes ∧
      findings = Findings.ofOutcomes outcomes := by
  obtain ⟨_, outcomes, houtcomes, hfindings⟩ := lintPaths_eq_ok_iff.1 h
  exact ⟨outcomes, houtcomes.imp fun _ _ => fileOutcome_eq_ok_iff.1, hfindings⟩

theorem accounts_of_lintPaths {paths : List Path} {findings : Findings}
    (h : lintPaths workspace (Registry.standard host) settings paths = .ok findings) :
    Accounts host workspace settings (sourcesIn host workspace settings paths) findings := by
  obtain ⟨outcomes, hsettled, rfl⟩ := settles_of_lintPaths h
  exact accounts_ofOutcomes hsettled

theorem exists_lintPaths_iff (positive : 1 ≤ settings.rule.minimum) {paths : List Path}
    (spelled : SpelledIn host workspace settings paths) :
    (∃ findings, lintPaths workspace (Registry.standard host) settings paths = .ok findings) ↔
      (∀ path ∈ paths, workspace.refuses path = false) ∧
        ∀ path ∈ sourcesIn host workspace settings paths,
          ¬ Aborts host workspace settings path := by
  constructor
  · rintro ⟨findings, h⟩
    obtain ⟨outcomes, hsettled, _⟩ := settles_of_lintPaths h
    refine ⟨(lintPaths_eq_ok_iff.1 h).1, fun path hpath => ?_⟩
    obtain ⟨outcome, _, hfile⟩ := exists_right_of_mem hsettled (List.mem_of_mem_filter hpath)
    exact hfile.not_aborts
  · rintro ⟨followed, hnone⟩
    have hfiles : ∀ path ∈ sourcePaths workspace (Registry.standard host) settings paths,
        ∃ outcome, fileOutcome workspace (Registry.standard host) settings path = .ok outcome := by
      intro path hpath
      simp only [fileOutcome_eq_ok_iff]
      cases hs : isSource (Registry.standard host) path with
      | false => exact ⟨_, .skipped hs⟩
      | true =>
        have hmem : path ∈ sourcesIn host workspace settings paths :=
          List.mem_filter.2 ⟨hpath, hs⟩
        exact exists_settles positive (spelled path hmem) (hnone path hmem)
    obtain ⟨outcomes, houtcomes⟩ := exists_mapM_eq_ok_iff.2 hfiles
    exact ⟨_, lintPaths_eq_ok_iff.2 ⟨followed, outcomes, mapM_eq_ok_iff.1 houtcomes, rfl⟩⟩

/-- Where no name has a surrogate, none ends a run. -/
theorem lintPaths_ne_surrogate {paths : List Path}
    (spelled : SpelledIn host workspace settings paths) :
    lintPaths workspace (Registry.standard host) settings paths ≠
      .error (.literal .surrogate) := by
  intro h
  simp only [lintPaths_eq, bind_eq_error_iff, mapError_eq_error_iff, mapError_eq_ok_iff,
    Files.discover_eq_ok_iff] at h
  -- A run ends while its paths are looked at, or in a file.
  obtain ⟨_, _, heq⟩ | ⟨found, ⟨_, rfl⟩, hfiles | ⟨_, _, hpure⟩⟩ := h
  · cases heq
  · obtain ⟨path, hpath, hfile⟩ := exists_of_mapM_eq_error hfiles
    obtain ⟨hsource, hunspelled⟩ := not_spelledAt_of_fileOutcome hfile
    exact hunspelled (spelled path (List.mem_filter.2 ⟨hpath, hsource⟩))
  · cases hpure

theorem spelledIn_of_lintPaths {paths : List Path} {findings : Findings}
    (h : lintPaths workspace (Registry.standard host) settings paths = .ok findings) :
    SpelledIn host workspace settings paths := by
  intro path hpath text hread
  obtain ⟨outcomes, hsettled, _⟩ := settles_of_lintPaths h
  obtain ⟨hmem, hsource⟩ := List.mem_filter.1 hpath
  obtain ⟨outcome, _, hfile⟩ := exists_right_of_mem hsettled hmem
  cases hfile with
  | skipped other => simp [hsource] at other
  | unreadable _ _ read => simp [hread] at read
  | malformed _ _ read unparsed =>
    cases hread.symm.trans read
    exact fun statements hparse => by simp [unparsed] at hparse
  | linted _ _ read declared =>
    cases hread.symm.trans read
    exact Source.spelled_of_declarations declared

theorem nodup_sourcesIn (paths : List Path) : (sourcesIn host workspace settings paths).Nodup :=
  (Files.pairwise_sourcePaths paths).nodup.filter _

end Run

/-- Files that are not text, not well formed, and in order. -/
def damaged : Workspace where
  root := [.folder "w" [.file "a.py" [0xff], .file "b.py" "class\n".toUTF8.toList,
    .file "c.py" ("class C(ObjectType):\n    a_x = F()\n" ++
      "    b = F(name='a\\N\x7bHYPHEN-MINUS\x7d\\x79')\n").toUTF8.toList]]
  directory := ["w"]

end FieldGrouping.Lint
