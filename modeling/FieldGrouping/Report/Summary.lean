import FieldGrouping.Lint.Run
import FieldGrouping.Report.Finding

/-! The report of a run, as lines of text or as one JSON document. -/

set_option autoImplicit false

namespace FieldGrouping.Report

open Lint (Findings Failure)

structure Output where
  stdout : List String
  stderr : List String
  deriving DecidableEq, Repr

def failureLine (failure : Failure) : String :=
  failure.path.text ++ ": skipped: " ++ failure.message

def countLines (findings : Findings) : List String :=
  if findings.diagnostics.isEmpty then []
  else
    ["Found " ++ toString findings.diagnostics.length ++ " violation(s) in " ++
      toString findings.files ++ " file(s)."]

def textOutput (findings : Findings) : Output :=
  ⟨findings.diagnostics.map diagnosticLine,
   findings.failures.map failureLine ++ countLines findings⟩

def failureJson (failure : Failure) : Json :=
  .object [("path", .text failure.path.text), ("error", .text failure.message)]

def statsJson (findings : Findings) : Json :=
  .object
    [("files", .number findings.files), ("types", .number findings.types),
     ("diagnostics", .number findings.diagnostics.length)]

def findingsJson (findings : Findings) : Json :=
  .object
    [("diagnostics", .list (findings.diagnostics.map fun d => (Finding.ofDiagnostic d).json)),
     ("parse_failures", .list (findings.failures.map failureJson)),
     ("stats", statsJson findings)]

def jsonOutput (findings : Findings) : Output :=
  ⟨[(findingsJson findings).indented 0], []⟩

end FieldGrouping.Report
