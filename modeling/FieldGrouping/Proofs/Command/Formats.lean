import FieldGrouping.Command.Run
import FieldGrouping.Proofs.Lint.Isolation
import FieldGrouping.Proofs.Report.Json

/-!
The two formats of a check say the same. The JSON report can be read in one way only, as a document;
the lines of the text report are built from the fields of that document, in its order. Text goes out
without the control sequences of terminals, which the JSON report escapes and so keeps.
-/

set_option autoImplicit false

namespace FieldGrouping

/-! ### Control sequences -/

theorem Text.dropSequences_of_notMem {text : String} (h : '\x1b' ∉ text.toList) :
    dropSequences text = text := by
  have hdrop (cs : List Char) (hcs : '\x1b' ∉ cs) : dropSequencesFrom 0 cs = cs := by
    induction cs with
    | nil => rfl
    | cons c cs ih =>
      obtain ⟨hc, hcs⟩ : '\x1b' ≠ c ∧ '\x1b' ∉ cs := by simpa using hcs
      have hnone : sequenceLength? (c :: cs) = none := by
        unfold sequenceLength?
        split
        · next heq => exact absurd (List.cons.inj heq).1.symm hc
        · rfl
      rw [dropSequencesFrom, hnone, ih hcs]
  rw [dropSequences, hdrop _ h, String.ofList_toList]

namespace Report

/-! ### Documents -/

/-- What a JSON report says: the diagnostics, the paths and errors of the files that failed, and the
numbers of files, types and diagnostics. -/
structure Document where
  diagnostics : List Finding
  failures : List (String × String)
  files : Int
  types : Int
  total : Int
  deriving DecidableEq

namespace Document

def json (document : Document) : Json :=
  .object
    [("diagnostics", .list (document.diagnostics.map Finding.json)),
     ("parse_failures", .list (document.failures.map fun failure =>
        .object [("path", .text failure.1), ("error", .text failure.2)])),
     ("stats", .object
        [("files", .number document.files), ("types", .number document.types),
         ("diagnostics", .number document.total)])]

/-- The document as it is printed. -/
def text (document : Document) : String :=
  document.json.indented 0 ++ "\n"

/-- The line of a diagnostic, from the fields of the document. -/
def diagnosticLine (finding : Finding) : String :=
  finding.path ++ ":" ++ toString finding.line ++ ":" ++ toString finding.column ++ ": " ++
    finding.rule ++ " " ++ finding.message

def failureLine (failure : String × String) : String :=
  failure.1 ++ ": skipped: " ++ failure.2

/-- The line that counts the diagnostics, where there are any. -/
def countLines (document : Document) : List String :=
  if document.diagnostics.isEmpty then []
  else
    ["Found " ++ toString document.total ++ " violation(s) in " ++ toString document.files ++
      " file(s)."]

/-- The lines of the text report on the standard output. -/
def outLines (document : Document) : List String :=
  document.diagnostics.map diagnosticLine

/-- The lines of the text report on the standard error. -/
def errLines (document : Document) : List String :=
  document.failures.map failureLine ++ document.countLines

/-- The document of some findings. -/
def ofFindings (findings : Lint.Findings) : Document where
  diagnostics := findings.diagnostics.map Finding.ofDiagnostic
  failures := findings.failures.map fun failure => (failure.path.text, failure.message)
  files := findings.files
  types := findings.types
  total := findings.diagnostics.length

end Document

section Document

theorem text_injective : Function.Injective Json.text :=
  fun _ _ h => Json.text.inj h

theorem Finding.json_injective : Function.Injective Finding.json := by
  intro a b h
  obtain ⟨path, line, column, typeName, rule, stem, fields, message⟩ := a
  obtain ⟨path', line', column', typeName', rule', stem', fields', message'⟩ := b
  simp only [Finding.json, Json.object.injEq, List.cons.injEq, Prod.mk.injEq, Json.text.injEq,
    Json.number.injEq, Json.list.injEq, (List.map_injective_iff.2 text_injective).eq_iff,
    true_and, and_true] at h
  simpa using h

theorem Document.json_injective : Function.Injective Document.json := by
  intro a b h
  obtain ⟨diagnostics, failures, files, types, total⟩ := a
  obtain ⟨diagnostics', failures', files', types', total'⟩ := b
  have hfailure : Function.Injective fun failure : String × String =>
      Json.object [("path", .text failure.1), ("error", .text failure.2)] := by
    intro f g hfg
    simpa [Prod.ext_iff] using hfg
  simp only [Document.json, Json.object.injEq, List.cons.injEq, Prod.mk.injEq, Json.number.injEq,
    Json.list.injEq, (List.map_injective_iff.2 Finding.json_injective).eq_iff,
    (List.map_injective_iff.2 hfailure).eq_iff, true_and, and_true] at h
  simpa [and_assoc] using h

/-- A printed document can be read in one way. -/
theorem Document.text_inj {a b : Document} (h : a.text = b.text) : a = b := by
  have hchars : (a.json.indented 0).toList ++ ['\n'] = (b.json.indented 0).toList ++ ['\n'] := by
    simpa [Document.text] using congrArg String.toList h
  have hjson : a.json.indented 0 = b.json.indented 0 :=
    String.toList_inj.1 (List.append_cancel_right hchars)
  exact Document.json_injective (Json.indented_injective hjson)

theorem Document.dropSequences_text (document : Document) :
    Text.dropSequences document.text = document.text := by
  refine Text.dropSequences_of_notMem fun h => ?_
  have hplain : Json.Plain document.text :=
    Json.plain_append (Json.plain_indented 0 document.json) (by simp [Json.Plain])
  exact absurd (hplain _ h) (by decide)

theorem findingsJson_eq (findings : Lint.Findings) :
    findingsJson findings = (Document.ofFindings findings).json := by
  simp [findingsJson, Document.ofFindings, Document.json, statsJson, failureJson, Function.comp_def]

theorem outLines_ofFindings {findings : Lint.Findings}
    (places : ∀ diagnostic ∈ findings.diagnostics, ∃ p, diagnostic.location = .place p) :
    findings.diagnostics.map diagnosticLine = (Document.ofFindings findings).outLines := by
  simp only [Document.outLines, Document.ofFindings, List.map_map]
  refine List.map_congr_left fun diagnostic hd => ?_
  obtain ⟨p, hp⟩ := places diagnostic hd
  simp [diagnosticLine, Document.diagnosticLine, Finding.ofDiagnostic, locationText, hp]

theorem errLines_ofFindings (findings : Lint.Findings) :
    findings.failures.map failureLine ++ countLines findings =
      (Document.ofFindings findings).errLines := by
  simp only [Document.errLines, Document.countLines, Document.ofFindings, countLines,
    List.map_map, List.isEmpty_map]
  rfl

end Document

end Report

namespace Command

open Files (Workspace)
open Lint (Findings lintPaths)
open Report (Document Finding)
open Source (Registry)

/-! ### One check in both formats -/

/-- The same check with its report in a format. -/
def CheckRequest.inFormat (request : CheckRequest) (format : String) : CheckRequest :=
  { request with format := format }

/-- The configuration of a check is read and its run completes, with some findings. -/
def CheckRequest.Completes (host : Host) (workspace : Workspace) (request : CheckRequest)
    (findings : Findings) : Prop :=
  ∃ settings,
    loadSettings host workspace request.source (overrides request) (extraStems request) =
      .ok (.ok settings) ∧
    lintPaths workspace (Registry.standard host) settings (checkedPaths request) = .ok findings

/-- Lines as they are, each with its end. -/
def wholeLines (lines : List String) : String :=
  String.join (lines.map (· ++ "\n"))

/-- What a text and a JSON report have in common, through the document that the JSON report is. -/
structure Agree (failing : Bool) (document : Document) (text json : Outcome) : Prop where
  written : json.stdout = document.text ∧ json.stderr = ""
  exit : text.exit = json.exit ∧
    json.exit = if document.diagnostics ≠ [] ∧ failing = true then 1 else 0
  total : document.total = document.diagnostics.length
  stdout : text.stdout = linesText document.outLines
  stderr : text.stderr = linesText document.errLines

theorem linesText_of_notMem {lines : List String} (h : ∀ line ∈ lines, '\x1b' ∉ line.toList) :
    linesText lines = wholeLines lines := by
  unfold linesText wholeLines
  refine congrArg String.join (List.map_congr_left fun line hline => ?_)
  exact Text.dropSequences_of_notMem (by simpa using h line hline)

section Check

variable {host : Host} {workspace : Workspace} {request : CheckRequest}

theorem refusal_of_loadSettings {source : ConfigSource} {overrides : Config.Table}
    {extra : List String} {outcome : Outcome}
    (h : loadSettings host workspace source overrides extra = .ok (.error outcome)) :
    ∃ message, outcome = refusal message := by
  unfold loadSettings at h
  dsimp only at h
  split at h
  · cases h
  · cases h
    exact ⟨_, rfl⟩
  · cases h

theorem check_inFormat {format : String} (known : format ∈ formats) :
    check host workspace (request.inFormat format) =
      loadSettings host workspace request.source (overrides request) (extraStems request) >>= fun
        | .error outcome => .ok outcome
        | .ok settings =>
          match lintPaths workspace (Registry.standard host) settings (checkedPaths request) with
          | .error fault => .error (.run fault)
          | .ok findings => .ok (checkOutcome (request.inFormat format) findings) := by
  unfold check
  rw [if_neg (by simpa [CheckRequest.inFormat] using known)]
  rfl

theorem check_of_completes {findings : Findings} {format : String}
    (completes : request.Completes host workspace findings) (known : format ∈ formats) :
    check host workspace (request.inFormat format) =
      .ok (checkOutcome (request.inFormat format) findings) := by
  obtain ⟨settings, hload, hrun⟩ := completes
  rw [check_inFormat known, hload]
  simp only [bind, Except.bind, hrun]

/-- A check that does not complete ends in one way for all formats, without a report. -/
theorem check_of_not_completes
    (incomplete : ∀ findings, ¬ request.Completes host workspace findings) :
    ∃ result, (∀ outcome, result = .ok outcome → outcome.exit = 2) ∧
      ∀ format ∈ formats, check host workspace (request.inFormat format) = result := by
  cases hload : loadSettings host workspace request.source (overrides request)
      (extraStems request) with
  | error fault =>
    refine ⟨.error fault, nofun, fun format known => ?_⟩
    rw [check_inFormat known, hload]
    rfl
  | ok loaded =>
    cases loaded with
    | error outcome =>
      obtain ⟨message, rfl⟩ := refusal_of_loadSettings hload
      refine ⟨.ok (refusal message), ?_, fun format known => ?_⟩
      · rintro outcome ⟨⟩
        rfl
      · rw [check_inFormat known, hload]
        rfl
    | ok settings =>
      cases hrun : lintPaths workspace (Registry.standard host) settings (checkedPaths request) with
      | error fault =>
        refine ⟨.error (.run fault), nofun, fun format known => ?_⟩
        rw [check_inFormat known, hload]
        simp only [bind, Except.bind, hrun]
      | ok findings => exact absurd ⟨settings, hload, hrun⟩ (incomplete findings)

end Check

section Agreement

theorem exists_place {host : Host} {workspace : Workspace} {request : CheckRequest}
    {findings : Findings}     (completes : request.Completes host workspace findings)
    {diagnostic : Diagnostic} (mem : diagnostic ∈ findings.diagnostics) :
    ∃ p, diagnostic.location = .place p := by
  obtain ⟨settings, -, run⟩ := completes
  rw [(Lint.accounts_of_lintPaths run).diagnostics] at mem
  obtain ⟨path, _, hfound⟩ := List.mem_flatMap.1 mem
  have hpath := Lint.reportedIn?_of_mem_foundAt hfound
  unfold Lint.reportedIn? at hpath
  split at hpath
  · next p hp => exact ⟨p, hp⟩
  · cases hpath

theorem stdout_json (request : CheckRequest) (findings : Findings) :
    (checkOutcome (request.inFormat "json") findings).stdout =
      (Document.ofFindings findings).text := by
  have hlines : (checkOutcome (request.inFormat "json") findings).output.stdout =
      [(Document.ofFindings findings).json.indented 0] := by
    rw [← Report.findingsJson_eq]
    rfl
  rw [Outcome.stdout, hlines]
  calc linesText [(Document.ofFindings findings).json.indented 0]
      = Text.dropSequences (Document.ofFindings findings).text := by
        simp [linesText, Document.text]
    _ = (Document.ofFindings findings).text := Document.dropSequences_text _

theorem agree_checkOutcome (request : CheckRequest) {findings : Findings}
    (places : ∀ diagnostic ∈ findings.diagnostics, ∃ p, diagnostic.location = .place p) :
    Agree request.failing (Document.ofFindings findings)
      (checkOutcome (request.inFormat "text") findings)
      (checkOutcome (request.inFormat "json") findings) where
  written := ⟨stdout_json request findings, rfl⟩
  exit := by
    refine ⟨rfl, ?_⟩
    simp [checkOutcome, CheckRequest.inFormat, Document.ofFindings]
  total := by simp [Document.ofFindings]
  stdout := congrArg linesText (Report.outLines_ofFindings places)
  stderr := congrArg linesText (Report.errLines_ofFindings findings)

/-- No surrogate ends a check of sources without one. -/
theorem check_ne_surrogate {host : Host} {workspace : Workspace} {request : CheckRequest}
    {format : String} (known : format ∈ formats) {settings : Settings}
    (loaded : loadSettings host workspace request.source (overrides request)
      (extraStems request) = .ok (.ok settings))
    (spelled : Lint.SpelledIn host workspace settings (checkedPaths request)) :
    check host workspace (request.inFormat format) ≠ .error (.run (.literal .surrogate)) := by
  rw [check_inFormat known, loaded]
  simp only [bind, Except.bind]
  cases hrun : lintPaths workspace (Registry.standard host) settings (checkedPaths request) with
  | error fault =>
    rintro ⟨⟩
    exact Lint.lintPaths_ne_surrogate spelled hrun
  | ok findings => simp

/-- A file with two fields whose names have a control sequence. -/
def colouredFile : Workspace :=
  let text := "class A(ObjectType):\n x = F(name='\\x1b[1mp_x')\n y = F(name='\\x1b[1mp_y')\n"
  ⟨[.folder "w" [.file "a.py" text.toUTF8.toList]], ["w"]⟩

def colouredCheck : CheckRequest :=
  ⟨[⟨["a.py"]⟩], ⟨⟨[]⟩, none⟩, none, [], false, "text", true⟩

def colouredDocument : Document where
  diagnostics :=
    [⟨"a.py", 3, 2, "A", "extract-type", "\x1b[1mp", ["\x1b[1mp_x", "\x1b[1mp_y"],
      "Consider moving \x1b[1mp_x, \x1b[1mp_y to a new type and adding the '\x1b[1mp' field " ++
        "instead"⟩]
  failures := []
  files := 1
  types := 1
  total := 1

theorem colouredCheck_completes :
    ∃ findings, colouredCheck.Completes default colouredFile findings ∧
      Document.ofFindings findings = colouredDocument := by
  have hload : loadSettings default colouredFile colouredCheck.source (overrides colouredCheck)
      (extraStems colouredCheck) = .ok (.ok Settings.default) := by
    rfl
  have hrun : (lintPaths colouredFile (Registry.standard default) Settings.default
      (checkedPaths colouredCheck)).toOption.map Document.ofFindings = some colouredDocument := by
    decide +kernel
  obtain ⟨findings, run, hdocument⟩ := toOption_map_eq_some_iff.1 hrun
  exact ⟨findings, ⟨_, hload, run⟩, hdocument⟩

end Agreement

end Command

end FieldGrouping
