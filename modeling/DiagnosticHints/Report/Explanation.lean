import DiagnosticHints.Analysis

/-!
# Explanations for people

The text of a finding, the summary of a run, and the table of the codes that are recognised.
-/

namespace DiagnosticHints

namespace Finding

/-- The code and the message of a finding. -/
def heading (f : Finding) : Text :=
  "error[".toList ++ f.diagnostic.kind.code ++ "]: ".toList ++ f.diagnostic.message

/-- The place of a finding. -/
def place (f : Finding) : Text :=
  "  --> ".toList ++ f.diagnostic.file ++ ':' :: Text.ofInt f.diagnostic.line ++
    ':' :: Text.ofInt f.diagnostic.column

/-- What there is to say about a suggestion. -/
def advice : Option Suggestion → List Text
  | none => ["   = note: no suggestion available"]
  | some s =>
    s.lines.map ("   = suggestion: ".toList ++ ·) ++ s.help.toList.map ("   = help: ".toList ++ ·)

/-- The explanation of a finding, several lines long. -/
def explanation (f : Finding) : Text :=
  Text.joinLines (f.heading :: f.place :: advice f.suggestion)

/-- How many diagnostics were read and how many of them got a suggestion. -/
def summary (findings : List Finding) : Text :=
  let explained := (findings.filter (·.suggestion.isSome)).length
  let noun : Text := if findings.length = 1 then "diagnostic".toList else "diagnostics".toList
  Text.ofNat findings.length ++ ' ' :: noun ++ ", ".toList ++ Text.ofNat explained ++
    " with suggestions".toList

end Finding

namespace Problem

/-- The widest of some texts, in UTF-16 units. -/
def widest (texts : List Text) : Nat := (texts.map Text.units).foldl max 0

/-- One row for each code with the name and the title of its problem, in aligned columns. -/
def codeRows : List Text :=
  let codes := table.map (·.1)
  let names := table.map (·.2.name)
  table.map fun (code, p) =>
    Text.padEnd (widest codes) code ++ "  ".toList ++ Text.padEnd (widest names) p.name ++
      "  ".toList ++ p.entry.title

end Problem

end DiagnosticHints
