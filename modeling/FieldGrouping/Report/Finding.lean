import FieldGrouping.Report.Json
import FieldGrouping.Rule.Diagnostic

/-! A diagnostic as it is reported, on a line of text or as a JSON object. -/

set_option autoImplicit false

namespace FieldGrouping.Report

/-- What is reported of a diagnostic. A handle stands in place of the path, with line and column
zero. -/
structure Finding where
  path : String
  line : Int
  column : Int
  typeName : String
  rule : String
  stem : String
  fields : List String
  message : String
  deriving DecidableEq, Repr

def Finding.ofDiagnostic (diagnostic : Diagnostic) : Finding :=
  match diagnostic.location with
  | .place p =>
    ⟨p.path.text, p.line, p.column, p.typeName, diagnostic.rule, diagnostic.stem,
     diagnostic.fields, diagnostic.message⟩
  | .handle label =>
    ⟨handleText label, 0, 0, "", diagnostic.rule, diagnostic.stem, diagnostic.fields,
     diagnostic.message⟩

def Finding.json (finding : Finding) : Json :=
  .object
    [("path", .text finding.path), ("line", .number finding.line),
     ("column", .number finding.column), ("type_name", .text finding.typeName),
     ("rule", .text finding.rule), ("prefix", .text finding.stem),
     ("fields", .list (finding.fields.map .text)), ("message", .text finding.message)]

def locationText : Location → String
  | .place p => p.path.text ++ ":" ++ toString p.line ++ ":" ++ toString p.column
  | .handle label => handleText label

def diagnosticLine (diagnostic : Diagnostic) : String :=
  locationText diagnostic.location ++ ": " ++ diagnostic.rule ++ " " ++ diagnostic.message

end FieldGrouping.Report
