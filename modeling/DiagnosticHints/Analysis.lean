import DiagnosticHints.Diagnostic.Line
import DiagnosticHints.Suggestion.Strategy

/-!
# Analysis of a checker's output

Every diagnostic of an output gets its suggestion, in order. The tokens of a file are asked for
when its first diagnostic comes up, and kept for all others; they may come from any monad, so that
reading a file may fail, be logged or depend on earlier calls.
-/

namespace DiagnosticHints

/-- A diagnostic and its suggestion, if there is one. -/
structure Finding where
  diagnostic : Diagnostic
  suggestion : Option Suggestion
  deriving DecidableEq, Repr

namespace Analysis

/-- The tokens of the files that were loaded so far. -/
abbrev Loaded := List (Text × List Token)

variable {m : Type → Type} [Monad m]

/-- The tokens of a file: those that are loaded already, or else those loaded now and kept. -/
def tokensOnce (tokensFor : Text → m (List Token)) (file : Text) :
    StateT Loaded m (List Token) := do
  match (← get).lookup file with
  | some tokens => return tokens
  | none =>
    let tokens ← tokensFor file
    modify (· ++ [(file, tokens)])
    return tokens

/-- The finding for a diagnostic. -/
def finding (tokensFor : Text → m (List Token)) (options : Options) (d : Diagnostic) :
    StateT Loaded m Finding := do
  return ⟨d, d.suggest? (← tokensOnce tokensFor d.file) options⟩

/-- The findings for some diagnostics. -/
def ofDiagnostics (tokensFor : Text → m (List Token)) (options : Options)
    (ds : List Diagnostic) : m (List Finding) :=
  (ds.mapM (finding tokensFor options)).run' []

/-- The findings for the diagnostics of an output. -/
def ofOutput (tokensFor : Text → m (List Token)) (options : Options) (output : Text) :
    m (List Finding) :=
  ofDiagnostics tokensFor options (Diagnostic.parseOutput output)

end Analysis

end DiagnosticHints
