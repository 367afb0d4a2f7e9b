import DiagnosticHints.Diagnostic.Kind

/-!
# Diagnostics

A diagnostic of a checker: where something is wrong, which kind of problem it is, and the
checker's words for it.
-/

namespace DiagnosticHints

/-- A diagnostic of a checker. Its line and its column count from 1. -/
structure Diagnostic where
  file : Text
  line : Int
  column : Int
  kind : Kind
  message : Text
  deriving DecidableEq, Repr

end DiagnosticHints
