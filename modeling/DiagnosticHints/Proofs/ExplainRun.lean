import DiagnosticHints.Proofs.LoadedOnce
import DiagnosticHints.Proofs.TemplateFilling
import DiagnosticHints.Session.Explain

/-!
# What a run explains

A run that is given an output to explain succeeds, and its log is in two parts: warnings, one for
each distinct source that cannot be read, and the report of a pure analysis, in which a source that
cannot be read has no tokens. The sources are loaded before the analysis, each once, and the
analysis looks its tokens up among them; neither table changes a finding.
-/

namespace DiagnosticHints

/-- An environment with the given standard input and files, whose console names its colours and
whose logger writes the standard labels. -/
def Environment.listed (input : Text) (files : List (Text × Text)) : Environment Id where
  workdir := "/work"
  input := pure input
  read path := pure (match files.lookup path with
    | some content => .ok content
    | none => .error (.error
        ("ENOENT: no such file or directory, open '".toList ++ path ++ ['\''])
        (some (.text "ENOENT"))))
  paint := Painter.named

/-- A notice with one hole says what its template says around the value, and the value as it is. -/
theorem Notice.text_single {notice : Notice} {before key after : Text}
    (htemplate : notice.template = before ++ '\x7b' :: (key ++ '\x7d' :: after))
    (hbefore : '\x7b' ∉ before) (hafter : '\x7b' ∉ after) (hne : key ≠ [])
    (hkey : key.all Template.isKeyChar = true) (v : Text) :
    notice.text [(key, .text v)] =
      '[' :: (notice.code ++ ']' :: ' ' :: (before ++ (v ++ after))) := by
  rw [Notice.text, htemplate,
    Arguments.fill_single hbefore hafter hne (List.all_eq_true.1 hkey)]

/-- An output of one diagnostic, which points into one source. -/
def singleOutput : Text := "a.ts(1,1): error TS2304: Cannot find name 'x'."

namespace ExplainRequest

/-! ## Loading the sources -/

section

variable {m : Type → Type} [Monad m] [LawfulMonad m]

theorem foldlM_keepSource (request : ExplainRequest) (env : Environment m)
    (ds : List Diagnostic) (loaded : Analysis.Loaded) :
    ds.foldlM (request.keepSource env) loaded = do
      let new ← Analysis.load (request.sourceTokens env)
        (Analysis.freshFiles (loaded.map (·.1)) ds)
      return loaded ++ new := by
  induction ds generalizing loaded with
  | nil => simp [Analysis.freshFiles, Analysis.load_nil]
  | cons d ds ih =>
    rw [List.foldlM_cons, keepSource, Analysis.freshFiles]
    by_cases h : (loaded.lookup d.file).isSome = true
    · rw [if_pos h, if_pos (Analysis.mem_keys_iff.2 h), pure_bind, ih]
    · rw [if_neg h, if_neg (mt Analysis.mem_keys_iff.1 h)]
      simp only [bind_assoc, pure_bind, ih, Analysis.load_cons, List.map_append, List.map_cons,
        List.map_nil, List.append_assoc, List.singleton_append]

/-- Each distinct source is read once, in the order of first appearance. -/
theorem loadSources_eq_load (request : ExplainRequest) (env : Environment m)
    (ds : List Diagnostic) :
    request.loadSources env ds =
      Analysis.load (request.sourceTokens env) (Analysis.files ds) := by
  rw [loadSources, foldlM_keepSource, List.map_nil, Analysis.freshFiles_nil]
  simp

end

/-! ## What a source gives -/

section

variable (request : ExplainRequest) (env : Environment Id)

/-- The path at which a file named in a diagnostic is looked for. -/
def sourcePath (file : Text) : Text := Path.ofSource env.workdir request.directory file

/-- The tokens of a source, or none when it cannot be read. -/
def tokensFor (file : Text) : Id (List Token) :=
  match (env.read (request.sourcePath env file)).run with
  | .ok source => pure (Source.tokens source)
  | .error _ => pure []

/-- The line about a source that cannot be read, with its path and the reason as they are. -/
def unavailable (logger : Logger) (path reason : Text) : LogLine :=
  ⟨.output, logger.label .warning ++ "[THCLI004] source unavailable: ".toList ++ path ++
    " (".toList ++ reason ++ ")".toList⟩

/-- The warning about a source, if it cannot be read. -/
def warning? (file : Text) : Option LogLine :=
  match (env.read (request.sourcePath env file)).run with
  | .ok _ => none
  | .error failure => some (unavailable env.logger (request.sourcePath env file) failure.reason)

/-- The warnings about the sources that an output points into: one for each distinct file whose
source cannot be read, in the order of first appearance. -/
def warnings (output : Text) : List LogLine :=
  (Analysis.files (Diagnostic.parseOutput output)).filterMap (request.warning? env)

/-- The findings of the pure analysis of an output. -/
def findings (emphasis : Emphasis) (output : Text) : List Finding :=
  (Analysis.ofOutput (request.tokensFor env) ⟨emphasis, fun _ => none⟩ output).run

theorem sourceWarning_eq (logger : Logger) (path : Text) (failure : Failure) :
    sourceWarning logger path failure = unavailable logger path failure.reason := by
  have htext : Notice.sourceUnavailable.text [("path".toList, .text path)] =
      "[THCLI004] source unavailable: ".toList ++ path := by
    have htemplate : Notice.sourceUnavailable.template =
        "source unavailable: ".toList ++ '\x7b' :: ("path".toList ++ '\x7d' :: []) := rfl
    have hcode : Notice.sourceUnavailable.code = "THCLI004".toList := rfl
    rw [Notice.text_single htemplate (by decide) List.not_mem_nil (by decide) rfl, hcode]
    simp
  rw [sourceWarning, logger.line_warning, htext, unavailable]
  simp

theorem run_sourceTokens (file : Text) (log : List LogLine) :
    ((request.sourceTokens env file).run log).run =
      ((request.tokensFor env file).run, log ++ (request.warning? env file).toList) := by
  rw [sourceTokens, tokensFor, warning?, sourcePath]
  cases h : (env.read (Path.ofSource env.workdir request.directory file)).run with
  | ok source => simp [h]
  | error failure => simp [h, sourceWarning_eq]

theorem run_load (names : List Text) (log : List LogLine) :
    ((Analysis.load (request.sourceTokens env) names).run log).run =
      (Analysis.table (request.tokensFor env) names,
        log ++ names.filterMap (request.warning? env)) := by
  induction names generalizing log with
  | nil => simp [Analysis.load_nil, Analysis.table]
  | cons name names ih =>
    rw [Analysis.load_cons, StateT.run_bind, Id.run_bind, run_sourceTokens]
    cases h : request.warning? env name with
    | none => simp [ih, Analysis.table, h]
    | some line => simp [ih, Analysis.table, h]

/-! ## The report -/

theorem report_json (logger : Logger) (findings : List Finding) :
    report .json logger findings = [.plain (Finding.document findings)] := by
  rw [report, logger.line_log]

theorem report_text (logger : Logger) (findings : List Finding) :
    report .text logger findings =
      findings.flatMap (fun f => [.plain f.explanation, .plain []]) ++
        [logger.line .info (Finding.summary findings)] := by
  rw [report]
  simp only [logger.line_log]

/-! ## The run -/

/-- What a run explains: standard input without a byte order mark, or a file that can be read. -/
inductive Reads : Text → Prop
  | input : request.input = none → Reads (Text.dropMark env.input.run)
  | file {path output : Text} : request.input = some path → (env.read path).run = .ok output →
      Reads output

variable {request env} {output : Text}

theorem Reads.checkerOutput (h : request.Reads env output) :
    (request.checkerOutput env).run = .ok output := by
  rw [ExplainRequest.checkerOutput]
  cases h with
  | input hinput => simp [hinput]
  | file hinput hread => simp [hinput, hread]

/-- A run with something to explain warns and reports. -/
theorem Reads.runWith (h : request.Reads env output) (format : Format) :
    (request.runWith env format).run = .success (request.warnings env output ++ report format
      env.logger (request.findings env (request.emphasis format env.paint) output)) := by
  rw [ExplainRequest.runWith, Id.run_bind, h.checkerOutput]
  simp only [Id.run_bind, loadSources_eq_load]
  rw [run_load]
  -- the analysis sees the table of the loaded sources, which has all files it asks for
  have htable : ∀ file ∈ Analysis.files (Diagnostic.parseOutput output),
      Id.run (((Analysis.table (request.tokensFor env)
        (Analysis.files (Diagnostic.parseOutput output))).lookup file).getD []) =
        (request.tokensFor env file).run := by
    intro file hfile
    rw [Analysis.lookup_table _ hfile, Option.getD_some]
    rfl
  dsimp only
  rw [Analysis.ofDiagnostics_congr _ _ htable]
  rfl

theorem emphasis_json (request : ExplainRequest) (paint : Painter) :
    request.emphasis .json paint = .plain := by
  rw [emphasis, if_pos (Or.inr rfl)]

theorem Reads.run_eq (h : request.Reads env output) {format : Format}
    (hname : Format.ofName? request.format = some format) :
    (request.run env).run = .success (request.warnings env output ++ report format env.logger
      (request.findings env (request.emphasis format env.paint) output)) := by
  rw [run, hname]
  exact h.runWith format

variable (request env) in
/-- A run has something to explain, or a file that is to be explained cannot be read. -/
theorem reads_or_unreadable :
    (∃ output, request.Reads env output) ∨
      ∃ path failure, request.input = some path ∧ (env.read path).run = .error failure := by
  cases hinput : request.input with
  | none => exact Or.inl ⟨_, .input hinput⟩
  | some path =>
    cases hread : (env.read path).run with
    | ok output => exact Or.inl ⟨output, .file hinput hread⟩
    | error failure => exact Or.inr ⟨path, failure, rfl, hread⟩

variable (request env) in
/-- A run with an unknown format fails, whatever there is to read. -/
theorem run_unknown (hname : Format.ofName? request.format = none) :
    (request.run env).run = .failed (env.logger.line .error
      (Notice.unknownFormat.text [("format", .text request.format)])) := by
  rw [run, hname]
  rfl

/-- A run fails with nothing to explain, whatever its format is. -/
theorem run_unreadable {format : Format} {path : Text} {failure : Failure}
    (hname : Format.ofName? request.format = some format) (hinput : request.input = some path)
    (hread : (env.read path).run = .error failure) :
    (request.run env).run = .failed (env.logger.line .error (failure.notice path)) := by
  rw [run, hname]
  simp [ExplainRequest.runWith, checkerOutput, hinput, hread]

theorem Reads.run_json (h : request.Reads env output) (hformat : request.format = "json".toList) :
    (request.run env).run = .success (request.warnings env output ++
      [.plain (Finding.document (request.findings env .plain output))]) := by
  have hname : Format.ofName? request.format = some .json := by
    rw [hformat]
    rfl
  rw [h.run_eq hname, emphasis_json, report_json]

theorem map_diagnostic_findings (request : ExplainRequest) (env : Environment Id)
    (emphasis : Emphasis) (output : Text) :
    (request.findings env emphasis output).map (·.diagnostic) = Diagnostic.parseOutput output :=
  Analysis.map_diagnostic_ofDiagnostics _ _ _

/-- **A run refines the pure analysis.**  With an output to explain and a known format a run
succeeds; it warns once about each distinct source that cannot be read and then reports the findings
of the pure analysis, in a document without emphasis or as explanations with a summary. Missing
sources change nothing about which diagnostics are explained, nor in which order. -/
theorem run_eq_warnings_append_report (request : ExplainRequest) (env : Environment Id)
    (output : Text) (h : request.Reads env output) :
    let chosen := request.emphasis .text env.paint
    (request.format = "json".toList → (request.run env).run = ⟨0,
      request.warnings env output ++ [.plain (Json.document (.array
        ((request.findings env .plain output).map fun f => f.record.toJson)))], []⟩) ∧
    (request.format = "text".toList → (request.run env).run = ⟨0,
      request.warnings env output ++
        ((request.findings env chosen output).flatMap
            (fun f => [.plain f.explanation, .plain []]) ++
          [env.logger.line .info (Finding.summary (request.findings env chosen output))]), []⟩) ∧
    ∀ emphasis, (request.findings env emphasis output).map (·.diagnostic) =
      Diagnostic.parseOutput output := by
  intro chosen
  refine ⟨fun hformat => ?_, fun hformat => ?_, fun emphasis => ?_⟩
  · rw [h.run_json hformat]
    rfl
  · have hname : Format.ofName? request.format = some .text := by
      rw [hformat]
      rfl
    rw [h.run_eq hname, report_text]
    rfl
  · exact request.map_diagnostic_findings env emphasis output

/-- Two of three diagnostics point into a file that is missing from the directory of the checker,
and the one between them into a file that is there. -/
def interleavedOutput : Text :=
  "b.ts(1,1): error TS2304: Cannot find name 'x'.\n".toList ++
    "a.ts(1,2): error TS2554: m\nb.ts(2,1): error T: n".toList

/-- The output stands in a file, next to the directory of the checker. -/
def interleavedFiles : Environment Id :=
  .listed [] [("out.txt".toList, interleavedOutput), ("/work/sub/a.ts".toList, "foo(1)".toList)]

/-- A request to explain the output in that file, with plain subjects. -/
def interleavedRequest (format : Text) : ExplainRequest :=
  ⟨some "out.txt", some "sub", format, true⟩

theorem warnings_interleaved (format : Text) :
    (interleavedRequest format).warnings interleavedFiles interleavedOutput =
      [unavailable (.standard Painter.named) "/work/sub/b.ts"
        "ENOENT: no such file or directory, open '/work/sub/b.ts'"] := by
  -- the format has no part in the warnings
  show (interleavedRequest []).warnings interleavedFiles interleavedOutput = _
  decide +kernel

theorem findings_interleaved (format : Text) :
    ((interleavedRequest format).findings interleavedFiles .plain interleavedOutput).map
      (fun f => (f.diagnostic.file, f.suggestion.isSome)) =
        [("b.ts".toList, true), ("a.ts".toList, true), ("b.ts".toList, false)] := by
  show ((interleavedRequest []).findings interleavedFiles .plain interleavedOutput).map _ = _
  decide +kernel

/-- The missing file is warned about once, and all three diagnostics are reported, in both
formats. -/
theorem run_interleaved :
    let missing := unavailable (.standard Painter.named) "/work/sub/b.ts"
      "ENOENT: no such file or directory, open '/work/sub/b.ts'"
    let found (format : Text) :=
      (interleavedRequest format).findings interleavedFiles .plain interleavedOutput
    (found "json").map (fun f => (f.diagnostic.file, f.suggestion.isSome)) =
      [("b.ts".toList, true), ("a.ts".toList, true), ("b.ts".toList, false)] ∧
    ((interleavedRequest "json").run interleavedFiles).run = ⟨0,
      [missing, .plain (Json.document (.array ((found "json").map fun f => f.record.toJson)))],
      []⟩ ∧
    ((interleavedRequest "text").run interleavedFiles).run = ⟨0,
      missing :: ((found "text").flatMap (fun f => [.plain f.explanation, .plain []]) ++
        [(Logger.standard Painter.named).line .info "3 diagnostics, 2 with suggestions"]), []⟩ := by
  intro missing found
  have hjson := (run_eq_warnings_append_report (interleavedRequest "json") interleavedFiles
    interleavedOutput (.file rfl rfl)).1 rfl
  have htext := (run_eq_warnings_append_report (interleavedRequest "text") interleavedFiles
    interleavedOutput (.file rfl rfl)).2.1 rfl
  have hsummary : Finding.summary (found "text") = "3 diagnostics, 2 with suggestions".toList := by
    decide +kernel
  have hplain : (interleavedRequest "text").emphasis .text interleavedFiles.paint = .plain := rfl
  have hlogger : interleavedFiles.logger = .standard Painter.named := rfl
  refine ⟨findings_interleaved "json", ?_, ?_⟩
  · rw [hjson, warnings_interleaved, List.singleton_append]
  · rw [htext, hplain, hlogger, warnings_interleaved, hsummary, List.singleton_append]

end

end ExplainRequest

end DiagnosticHints
