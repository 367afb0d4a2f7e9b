import DiagnosticHints.Failure
import DiagnosticHints.Path
import DiagnosticHints.Report.Explanation
import DiagnosticHints.Report.Record
import DiagnosticHints.Session.Console

/-!
# Explaining a checker's output

A run checks the format, reads the output, loads the sources it points into with a warning for
each one that cannot be read, and writes its findings. Only a wrong format or an unreadable
output makes a run fail; without its source a diagnostic is still explained.
-/

namespace DiagnosticHints

/-- The form of a report. -/
inductive Format where
  | text
  | json
  deriving DecidableEq, Repr

namespace Format

/-- The name of a format. -/
def name : Format → Text
  | text => "text"
  | json => "json"

/-- The format of a name. -/
def ofName? (t : Text) : Option Format := [text, json].find? (·.name == t)

end Format

/-- What is asked of a run: the file with the output, or none for standard input; the directory
the checker ran in; the name of a format; and whether subjects are left without colour. -/
structure ExplainRequest where
  input : Option Text
  directory : Option Text
  format : Text
  plain : Bool
  deriving DecidableEq, Repr

namespace ExplainRequest

/-- The emphasis of subjects: none in a document or on request, else a colour for each tone. -/
def emphasis (request : ExplainRequest) (format : Format) (paint : Painter) : Emphasis :=
  if request.plain ∨ format = .json then Emphasis.plain
  else fun value tone =>
    match tone with
    | .expected => paint .green value
    | .warning => paint .yellow value
    | .error => paint .red value

variable {m : Type → Type} [Monad m]

/-- The checker's output, or the line that says why there is none. A byte order mark is dropped
from standard input, but kept in a file. -/
def checkerOutput (request : ExplainRequest) (env : Environment m) :
    m (Except LogLine Text) :=
  match request.input with
  | none => do return .ok (Text.dropMark (← env.input))
  | some path => do
    match ← env.read path with
    | .ok output => return .ok output
    | .error failure => return .error (env.logger.line .error (failure.notice path))

/-- The warning about a source that could not be read. -/
def sourceWarning (logger : Logger) (path : Text) (failure : Failure) : LogLine :=
  logger.line .warning
    (Notice.sourceUnavailable.text [("path", .text path)] ++ ' ' :: '(' ::
      (failure.reason ++ [')']))

/-- The tokens of a source, or none with a warning in the log. -/
def sourceTokens (request : ExplainRequest) (env : Environment m) (file : Text) :
    StateT (List LogLine) m (List Token) := do
  let path := Path.ofSource env.workdir request.directory file
  match ← env.read path with
  | .ok source => return Source.tokens source
  | .error failure =>
    modify (· ++ [sourceWarning env.logger path failure])
    return []

/-- The loaded sources with that of one more diagnostic, which is read unless it was before. -/
def keepSource (request : ExplainRequest) (env : Environment m) (loaded : Analysis.Loaded)
    (d : Diagnostic) : StateT (List LogLine) m Analysis.Loaded := do
  if (loaded.lookup d.file).isSome then return loaded
  else
    let tokens ← request.sourceTokens env d.file
    return loaded ++ [(d.file, tokens)]

/-- The tokens of the sources that some diagnostics point into. -/
def loadSources (request : ExplainRequest) (env : Environment m) (ds : List Diagnostic) :
    StateT (List LogLine) m Analysis.Loaded :=
  ds.foldlM (request.keepSource env) []

/-- The log of the findings. -/
def report (format : Format) (logger : Logger) (findings : List Finding) : List LogLine :=
  match format with
  | .json => [logger.line .log (Finding.document findings)]
  | .text =>
    findings.flatMap (fun f => [logger.line .log f.explanation, logger.line .log []]) ++
      [logger.line .info (Finding.summary findings)]

/-- A run with a format that is known. -/
def runWith (request : ExplainRequest) (env : Environment m) (format : Format) : m Outcome := do
  match ← request.checkerOutput env with
  | .error line => return .failed line
  | .ok output =>
    let ds := Diagnostic.parseOutput output
    let (loaded, warnings) ← (request.loadSources env ds).run []
    let tokensFor (file : Text) : Id (List Token) := (loaded.lookup file).getD []
    let options : Options := ⟨request.emphasis format env.paint, fun _ => none⟩
    let findings := (Analysis.ofDiagnostics tokensFor options ds).run
    return .success (warnings ++ report format env.logger findings)

/-- A run; an unknown format ends it before anything is read. -/
def run (request : ExplainRequest) (env : Environment m) : m Outcome :=
  match Format.ofName? request.format with
  | some format => request.runWith env format
  | none =>
    return .failed (env.logger.line .error
      (Notice.unknownFormat.text [("format", .text request.format)]))

end ExplainRequest

end DiagnosticHints
