import DiagnosticHints.Problem

/-!
# Kinds of diagnostics

The code of a diagnostic names a known problem or is kept as it stands. A kind leads back to a
code, the first one of its problem, and that code leads to the same kind again.
-/

namespace DiagnosticHints

/-- What the code of a diagnostic stands for. -/
inductive Kind where
  | known (problem : Problem)
  | unsupported (code : Text)
  deriving DecidableEq, Repr

namespace Kind

/-- The kind of a code. -/
def ofCode (code : Text) : Kind :=
  match Problem.ofCode? code with
  | some problem => .known problem
  | none => .unsupported code

/-- The code of a kind. -/
def code : Kind → Text
  | known problem => problem.code
  | unsupported code => code

/-- Whether the code of a kind names a problem. -/
def isKnown : Kind → Bool
  | known _ => true
  | unsupported _ => false

/-- The name of a kind in reports. -/
def label : Kind → Text
  | known problem => problem.name
  | unsupported _ => "unsupported"

theorem ofCode_code_ofCode (c : Text) : ofCode (ofCode c).code = ofCode c := by
  cases h : Problem.ofCode? c with
  | some p => simp [ofCode, code, h, Problem.ofCode?_code]
  | none => simp [ofCode, code, h]

end Kind

end DiagnosticHints
