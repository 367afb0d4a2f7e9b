import DiagnosticHints.Analysis
import DiagnosticHints.Report.Json

/-!
# Records for tools

A finding with all its parts side by side, as it is written into a JSON document.
-/

namespace DiagnosticHints

/-- A finding without nested parts. -/
structure FindingRecord where
  code : Text
  column : Int
  file : Text
  help : Option Text
  kind : Text
  line : Int
  message : Text
  suggestions : List Text
  deriving DecidableEq, Repr

/-- The record of a finding. -/
def Finding.record (f : Finding) : FindingRecord where
  code := f.diagnostic.kind.code
  column := f.diagnostic.column
  file := f.diagnostic.file
  help := f.suggestion.bind (·.help)
  kind := f.diagnostic.kind.label
  line := f.diagnostic.line
  message := f.diagnostic.message
  suggestions := (f.suggestion.map (·.lines)).getD []

/-- The JSON object of a record. -/
def FindingRecord.toJson (r : FindingRecord) : Json :=
  .object [
    ("code", .text r.code),
    ("column", .number r.column),
    ("file", .text r.file),
    ("help", (r.help.map Json.text).getD .null),
    ("kind", .text r.kind),
    ("line", .number r.line),
    ("message", .text r.message),
    ("suggestions", .array (r.suggestions.map Json.text))]

/-- The JSON document of some findings. -/
def Finding.document (findings : List Finding) : Text :=
  (Json.array (findings.map (·.record.toJson))).document

end DiagnosticHints
