import DiagnosticHints.Proofs.ExplainRun
import DiagnosticHints.Proofs.JsonLines

/-!
# Runs that write a document

A run that is asked for a document writes it to standard output, and its warnings go there as
well, in front of the document. So what such a run writes is a document of JSON if and only if all
sources that the checker's output points into can be read.
-/

namespace DiagnosticHints

/-- What a run writes to standard output, each line with its line feed. -/
def Outcome.standardOutput (outcome : Outcome) : Text :=
  outcome.printed.flatMap (· ++ ['\n']) ++
    (outcome.log.filter (·.stream = .output)).flatMap (·.text ++ ['\n'])

namespace ExplainRequest

variable (request : ExplainRequest) (env : Environment Id) (output : Text)

/-- The source that a diagnostic points into can be read. -/
def FindsSource (d : Diagnostic) : Prop :=
  ∃ source, (env.read (request.sourcePath env d.file)).run = .ok source

/-! ## Warnings -/

theorem warning?_eq_none_iff (d : Diagnostic) :
    request.warning? env d.file = none ↔ request.FindsSource env d := by
  rw [warning?, FindsSource]
  cases (env.read (request.sourcePath env d.file)).run with
  | ok source => exact ⟨fun _ => ⟨source, rfl⟩, fun _ => rfl⟩
  | error failure =>
    constructor
    · intro h
      cases h
    · rintro ⟨_, h⟩
      cases h

theorem warnings_eq_nil_iff :
    request.warnings env output = [] ↔
      ∀ d ∈ Diagnostic.parseOutput output, request.FindsSource env d := by
  rw [warnings, List.filterMap_eq_nil_iff]
  constructor
  · intro h d hd
    apply (request.warning?_eq_none_iff env d).1
    exact h d.file (Analysis.mem_files.2 ⟨d, hd, rfl⟩)
  · intro h file hfile
    obtain ⟨d, hd, rfl⟩ := Analysis.mem_files.1 hfile
    exact (request.warning?_eq_none_iff env d).2 (h d hd)

variable {request env output}

/-- A warning is a line of standard output and ends with the reason in parentheses. -/
theorem of_mem_warnings {line : LogLine} (h : line ∈ request.warnings env output) :
    line.stream = .output ∧ ∃ t, line.text = t ++ [')'] := by
  rw [warnings, List.mem_filterMap] at h
  obtain ⟨file, _, hline⟩ := h
  rw [warning?] at hline
  split at hline
  · cases hline
  · cases hline
    exact ⟨rfl, _, rfl⟩

/-! ## The run -/

/-- A run that succeeds has read an output. -/
theorem exists_reads (h : (request.run env).run.exitCode = 0) :
    ∃ output, request.Reads env output := by
  rcases reads_or_unreadable request env with hreads | ⟨path, failure, hinput, hread⟩
  · exact hreads
  · -- without an output a run fails, whatever its format
    cases hname : Format.ofName? request.format with
    | none =>
      rw [run_unknown request env hname] at h
      cases h
    | some format =>
      rw [run_unreadable hname hinput hread] at h
      cases h

/-- What a run writes that is asked for a document: its warnings, and then the document. -/
theorem Reads.standardOutput_json (h : request.Reads env output)
    (hformat : request.format = "json".toList) :
    (request.run env).run.standardOutput =
      (request.warnings env output).flatMap (·.text ++ ['\n']) ++
        (Finding.document (request.findings env .plain output) ++ ['\n']) := by
  have hwarnings : (request.warnings env output).filter (·.stream = .output) =
      request.warnings env output :=
    List.filter_eq_self.2 fun line hline => decide_eq_true (of_mem_warnings hline).1
  rw [h.run_json hformat, Outcome.standardOutput, Outcome.success, List.filter_append, hwarnings,
    List.flatMap_append]
  simp [LogLine.plain]

theorem read?_warning {lines : List LogLine} {line : LogLine}
    (hline : ∃ t, line.text = t ++ [')']) (rest : Text) :
    Json.read? ((line :: lines).flatMap (·.text ++ ['\n']) ++ rest) = none := by
  obtain ⟨t, ht⟩ := hline
  have hend : (line :: lines).flatMap (·.text ++ ['\n']) ++ rest =
      t ++ ')' :: '\n' :: (lines.flatMap (·.text ++ ['\n']) ++ rest) := by
    simp [ht]
  rw [hend, Json.read?_parenthesis]

/-- **When a run writes a document.**  A run that succeeds and is asked for a document writes its
warnings and then the array with one record for each diagnostic of the output, in order. If all
sources can be read, then this is a document of JSON with that array; if any source cannot be read,
then it is none. -/
theorem read?_standardOutput (request : ExplainRequest) (env : Environment Id)
    (hformat : request.format = "json".toList) (hexit : (request.run env).run.exitCode = 0) :
    ∃ output, request.Reads env output ∧
      let found := request.findings env .plain output
      let written := (request.run env).run.standardOutput
      found.map (·.diagnostic) = Diagnostic.parseOutput output ∧
      written = (request.warnings env output).flatMap (·.text ++ ['\n']) ++
        (Finding.document found ++ ['\n']) ∧
      ((∀ d ∈ Diagnostic.parseOutput output, request.FindsSource env d) →
        Json.read? written = some (.array (found.map (·.record.toJson)))) ∧
      ((∃ d ∈ Diagnostic.parseOutput output, ¬ request.FindsSource env d) →
        Json.read? written = none) := by
  obtain ⟨output, h⟩ := exists_reads hexit
  refine ⟨output, h, request.map_diagnostic_findings env .plain output,
    h.standardOutput_json hformat, fun hall => ?_, fun hsome => ?_⟩
  · rw [h.standardOutput_json hformat, (warnings_eq_nil_iff request env output).2 hall,
      List.flatMap_nil, List.nil_append, Finding.document]
    exact Json.read?_document_append _ rfl (by simp [Json.StopsNumber, Char.isDigit])
  · rw [h.standardOutput_json hformat]
    obtain ⟨line, lines, hlines⟩ : ∃ line lines, request.warnings env output = line :: lines := by
      apply List.exists_cons_of_ne_nil
      rw [ne_eq, warnings_eq_nil_iff]
      intro hall
      obtain ⟨d, hd, hmissing⟩ := hsome
      exact hmissing (hall d hd)
    have hline := of_mem_warnings (hlines ▸ List.mem_cons_self)
    rw [hlines, read?_warning hline.2]

/-- A request for a document about what stands on standard input. -/
def documentRequest : ExplainRequest := ⟨none, none, "json", false⟩

/-- An output with one diagnostic and its source there. -/
theorem read?_standardOutput_present :
    let env := Environment.listed singleOutput [("/work/a.ts".toList, "x".toList)]
    Json.read? (documentRequest.run env).run.standardOutput = some (.array
      ((documentRequest.findings env .plain singleOutput).map (·.record.toJson))) := by
  intro env
  have hparse : Diagnostic.parseOutput singleOutput =
      [⟨"a.ts", 1, 1, .ofCode "TS2304", "Cannot find name 'x'."⟩] := by decide +kernel
  obtain ⟨output, hreads, -, -, hpresent, -⟩ :=
    read?_standardOutput documentRequest env rfl (by decide +kernel)
  cases hreads with
  | file hinput => cases hinput
  | input =>
    apply hpresent
    intro d hd
    have hd' : d ∈ Diagnostic.parseOutput singleOutput := hd
    rw [hparse, List.mem_singleton] at hd'
    rw [hd']
    exact ⟨"x".toList, rfl⟩

/-- Without the source the warning stands in front of the array, and what is written is no
document: a run may succeed and still write none. -/
theorem not_forall_read?_standardOutput :
    ¬ ∀ (request : ExplainRequest) (env : Environment Id),
      request.format = "json".toList → (request.run env).run.exitCode = 0 →
      ∃ output, request.Reads env output ∧
        Json.read? (request.run env).run.standardOutput =
          some (.array ((request.findings env .plain output).map (·.record.toJson))) := by
  intro h
  obtain ⟨_, -, hdocument⟩ := h documentRequest (.listed singleOutput []) rfl (by decide +kernel)
  have hreads : documentRequest.Reads (.listed singleOutput []) singleOutput := .input rfl
  have hwarnings : documentRequest.warnings (.listed singleOutput []) singleOutput =
      [unavailable (.standard Painter.named) "/work/a.ts"
        "ENOENT: no such file or directory, open '/work/a.ts'"] := by decide +kernel
  rw [hreads.standardOutput_json rfl, hwarnings, read?_warning ⟨_, rfl⟩] at hdocument
  cases hdocument

end ExplainRequest

end DiagnosticHints
