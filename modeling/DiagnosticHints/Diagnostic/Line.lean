import DiagnosticHints.Diagnostic.Basic
import DiagnosticHints.Text.Digits

/-!
# Diagnostics as lines of output

A diagnostic is written on a line of the form `file(line,column): error code: message`. Reading
looks for each mark at its first occurrence, so a file name holds no opening parenthesis and a
code no colon with a blank behind it; what follows them may hold any mark again.
-/

namespace DiagnosticHints

namespace Diagnostic

/-- The mark between the place and the code of a diagnostic. -/
def errorMark : Text := "): error "

/-- The mark between the code and the message of a diagnostic. -/
def messageMark : Text := ": "

/-- The line of a diagnostic, with the first code of its problem. -/
def render (d : Diagnostic) : Text :=
  d.file ++ '(' :: (Text.ofInt d.line ++ ',' :: (Text.ofInt d.column ++
    (errorMark ++ (d.kind.code ++ (messageMark ++ d.message)))))

/-- The greatest line or column that is read, 2^53 - 1. -/
def greatestCoordinate : Nat := Nat.pow 2 53 - 1

/-- A line or column: ASCII digits of a value that is not too great. -/
def coordinate? (t : Text) : Option Nat :=
  (Text.toNat? t).filter (· ≤ greatestCoordinate)

/-- The line without one carriage return at its end. -/
def dropReturn (line : Text) : Text :=
  if line.getLast? = some '\r' then line.dropLast else line

/-- The diagnostic that a line holds. -/
def parse? (line : Text) : Option Diagnostic := do
  let (file, rest) ← Text.splitFirst? ['('] (dropReturn line)
  let (place, detail) ← Text.splitFirst? errorMark rest
  let (row, column) ← Text.splitFirst? [','] place
  let (code, message) ← Text.splitFirst? messageMark detail
  let row ← coordinate? row
  let column ← coordinate? column
  return ⟨file, row, column, .ofCode code, message⟩

/-- The diagnostics of an output, line by line; the other lines are passed over. -/
def parseOutput (output : Text) : List Diagnostic := (output.splitOn '\n').filterMap parse?

end Diagnostic

end DiagnosticHints
