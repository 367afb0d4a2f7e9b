import DiagnosticHints.Proofs.CompleteSuggestion
import DiagnosticHints.Proofs.DocumentRun

/-!
# Reports that agree

A record does not tell a finding without a suggestion from one whose suggestion is empty, and yet a
report in words can be made from the records of a document alone: every standard suggestion has
help, so a record without help is one without a suggestion.
-/

namespace DiagnosticHints

/-! ## Reading records -/

namespace Json

/-- The value of a member of an object. -/
def member? (key : Text) : Json → Option Json
  | object members => members.lookup key
  | _ => none

/-- The items of an array. -/
def items? : Json → Option (List Json)
  | array items => some items
  | _ => none

/-- A whole number. -/
def number? : Json → Option Int
  | number n => some n
  | _ => none

/-- A text. -/
def text? : Json → Option Text
  | text t => some t
  | _ => none

/-- A text or null, which stands for no text. -/
def textOrNull? : Json → Option (Option Text)
  | null => some none
  | text t => some (some t)
  | _ => none

/-- A list is read back by a reader that undoes the writer of its items. -/
theorem mapM_map_eq_some {α β : Type} {write : α → β} {read? : β → Option α}
    (h : ∀ a, read? (write a) = some a) (as : List α) : (as.map write).mapM read? = some as := by
  have hread : read? ∘ write = fun a => pure a := funext h
  rw [List.mapM_map, hread, List.mapM_pure, List.map_id']
  rfl

end Json

namespace FindingRecord

/-- The record that is written as an object. -/
def ofJson? (v : Json) : Option FindingRecord := do
  let code ← (← v.member? "code").text?
  let column ← (← v.member? "column").number?
  let file ← (← v.member? "file").text?
  let help ← (← v.member? "help").textOrNull?
  let kind ← (← v.member? "kind").text?
  let line ← (← v.member? "line").number?
  let message ← (← v.member? "message").text?
  let suggestions ← (← (← v.member? "suggestions").items?).mapM Json.text?
  return ⟨code, column, file, help, kind, line, message, suggestions⟩

/-- The records of a document. -/
def ofDocument? (t : Text) : Option (List FindingRecord) := do
  (← (← Json.read? t).items?).mapM ofJson?

theorem textOrNull?_help (help : Option Text) :
    ((help.map Json.text).getD .null).textOrNull? = some help := by
  cases help <;> rfl

theorem ofJson?_toJson (r : FindingRecord) : ofJson? r.toJson = some r := by
  have htext : ∀ t, (Json.text t).text? = some t := fun _ => rfl
  -- all members but two are what they are read as
  calc ofJson? r.toJson
      = do
        let help ← ((r.help.map Json.text).getD .null).textOrNull?
        let suggestions ← (r.suggestions.map Json.text).mapM Json.text?
        return ⟨r.code, r.column, r.file, help, r.kind, r.line, r.message, suggestions⟩ := rfl
    _ = some r := by
        rw [textOrNull?_help, Json.mapM_map_eq_some htext]
        rfl

theorem ofDocument?_document (findings : List Finding) :
    ofDocument? (Finding.document findings) = some (findings.map (·.record)) := by
  have hitems : findings.map (·.record.toJson) = (findings.map (·.record)).map toJson := by
    rw [List.map_map]
    rfl
  rw [ofDocument?, Finding.document, Json.read?_document, hitems]
  exact Json.mapM_map_eq_some ofJson?_toJson _

/-! ## Reports from records -/

/-- The code and the message of a record. -/
def heading (r : FindingRecord) : Text :=
  "error[".toList ++ r.code ++ "]: ".toList ++ r.message

/-- The place of a record. -/
def place (r : FindingRecord) : Text :=
  "  --> ".toList ++ r.file ++ ':' :: Text.ofInt r.line ++ ':' :: Text.ofInt r.column

/-- What a record has to say: its suggestions and its help, or that there are none. -/
def advice (r : FindingRecord) : List Text :=
  match r.help with
  | none => ["   = note: no suggestion available"]
  | some help =>
    r.suggestions.map ("   = suggestion: ".toList ++ ·) ++ ["   = help: ".toList ++ help]

/-- The explanation that can be made from a record. -/
def explanation (r : FindingRecord) : Text :=
  Text.joinLines (r.heading :: r.place :: r.advice)

/-- The summary that can be made from some records. -/
def summary (records : List FindingRecord) : Text :=
  let explained := (records.filter (·.help.isSome)).length
  let noun : Text := if records.length = 1 then "diagnostic".toList else "diagnostics".toList
  Text.ofNat records.length ++ ' ' :: noun ++ ", ".toList ++ Text.ofNat explained ++
    " with suggestions".toList

/-- The report in words that can be made from some records. -/
def report (logger : Logger) (records : List FindingRecord) : List LogLine :=
  records.flatMap (fun r => [.plain r.explanation, .plain []]) ++
    [logger.line .info (summary records)]

end FindingRecord

/-- A standard suggestion has help. -/
theorem Diagnostic.isSome_help {d : Diagnostic} {tokens : List Token} {emphasis : Emphasis}
    {s : Suggestion} (h : d.suggest? tokens ⟨emphasis, fun _ => none⟩ = some s) :
    s.help.isSome = true := by
  rw [suggest?_eq_outline, Option.map_eq_some_iff] at h
  obtain ⟨o, ho, rfl⟩ := h
  rw [outline?] at ho
  cases hkind : d.kind with
  | unsupported code =>
    rw [hkind] at ho
    cases ho
  | known p =>
    rw [hkind] at ho
    rw [Outline.suggestion, Option.isSome_map]
    exact Problem.help_isSome ho

namespace Finding

/-- A suggestion, if there is one, has help. -/
def IsHelpful (f : Finding) : Prop := ∀ s, f.suggestion = some s → s.help.isSome = true

theorem IsHelpful.isSome_help {f : Finding} (h : f.IsHelpful) :
    f.record.help.isSome = f.suggestion.isSome := by
  rw [record]
  cases hs : f.suggestion with
  | none => rfl
  | some s => exact h s hs

theorem IsHelpful.advice_record {f : Finding} (h : f.IsHelpful) :
    f.record.advice = advice f.suggestion := by
  rw [FindingRecord.advice, record]
  cases hs : f.suggestion with
  | none => rfl
  | some s =>
    obtain ⟨help, hhelp⟩ := Option.isSome_iff_exists.1 (h s hs)
    simp [advice, hhelp]

theorem IsHelpful.explanation_record {f : Finding} (h : f.IsHelpful) :
    f.record.explanation = f.explanation := by
  rw [FindingRecord.explanation, h.advice_record]
  rfl

variable {findings : List Finding}

theorem summary_records (h : ∀ f ∈ findings, f.IsHelpful) :
    FindingRecord.summary (findings.map (·.record)) = summary findings := by
  have hexplained : ((findings.map (·.record)).filter (·.help.isSome)).length =
      (findings.filter (·.suggestion.isSome)).length := by
    rw [List.filter_map, List.length_map]
    congr 1
    exact List.filter_congr fun f hf => (h f hf).isSome_help
  rw [FindingRecord.summary, hexplained, List.length_map]
  rfl

/-- A report in words can be made from the records of helpful findings. -/
theorem report_records (h : ∀ f ∈ findings, f.IsHelpful) (logger : Logger) :
    FindingRecord.report logger (findings.map (·.record)) =
      ExplainRequest.report .text logger findings := by
  have hlines : (findings.map (·.record)).flatMap
      (fun r => [LogLine.plain r.explanation, .plain []]) =
        findings.flatMap (fun f => [.plain f.explanation, .plain []]) := by
    rw [List.flatMap_map]
    exact List.flatMap_congr fun f hf => by rw [(h f hf).explanation_record]
  rw [FindingRecord.report, hlines, summary_records h, ExplainRequest.report_text]

end Finding

namespace ExplainRequest

/-- The request for a report in words, without colours in the suggestions. -/
def asText (request : ExplainRequest) : ExplainRequest :=
  { request with format := "text", plain := true }

/-- The request for a document. -/
def asJson (request : ExplainRequest) : ExplainRequest := { request with format := "json" }

variable {request : ExplainRequest} {env : Environment Id} {output : Text}

theorem isHelpful_of_mem_findings {emphasis : Emphasis} {f : Finding}
    (hf : f ∈ request.findings env emphasis output) : f.IsHelpful := by
  have hrun : request.findings env emphasis output = (Diagnostic.parseOutput output).map
      fun d => ⟨d, d.suggest? (request.tokensFor env d.file).run ⟨emphasis, fun _ => none⟩⟩ :=
    Analysis.run_ofDiagnostics _ _ _
  rw [hrun, List.mem_map] at hf
  obtain ⟨d, -, rfl⟩ := hf
  exact fun s hs => Diagnostic.isSome_help hs

theorem ofName?_asText : Format.ofName? request.asText.format = some .text := rfl

theorem ofName?_asJson : Format.ofName? request.asJson.format = some .json := rfl

theorem Reads.asText (h : request.Reads env output) : request.asText.Reads env output := by
  cases h with
  | input hinput => exact .input hinput
  | file hinput hread => exact .file hinput hread

theorem Reads.asJson (h : request.Reads env output) : request.asJson.Reads env output := by
  cases h with
  | input hinput => exact .input hinput
  | file hinput hread => exact .file hinput hread

theorem Reads.run_asText (h : request.Reads env output) :
    (request.asText.run env).run = .success (request.warnings env output ++
      FindingRecord.report env.logger
        ((request.findings env .plain output).map (·.record))) := by
  rw [h.asText.run_eq ofName?_asText,
    Finding.report_records (fun f hf => isHelpful_of_mem_findings hf)]
  rfl

theorem Reads.run_asJson (h : request.Reads env output) :
    (request.asJson.run env).run = .success (request.warnings env output ++
      [.plain (Finding.document (request.findings env .plain output))]) :=
  h.asJson.run_json rfl

/-- Without an output to explain a run fails in the same way, whatever it was asked for. -/
theorem run_asText_of_not_reads (h : ¬ ∃ output, request.Reads env output) :
    (request.asText.run env).run = (request.asJson.run env).run := by
  obtain ⟨path, failure, hinput, hread⟩ := (reads_or_unreadable request env).resolve_left h
  have htext : (request.asText.run env).run =
      .failed (env.logger.line .error (failure.notice path)) :=
    run_unreadable ofName?_asText hinput hread
  have hjson : (request.asJson.run env).run =
      .failed (env.logger.line .error (failure.notice path)) :=
    run_unreadable ofName?_asJson hinput hread
  rw [htext, hjson]

/-- **A report in words can be made from the document.**  A run that is asked for a report in words
without colours and one that is asked for a document have the same exit code, and print nothing past
the log; they are the same if there is no output to explain. Otherwise they warn about the same
sources in the same way, and behind its warnings the one logs a document, which can be read as
records, one for each diagnostic of the output, and the other the report that is made from these
records alone. -/
theorem run_asText_of_records (request : ExplainRequest) (env : Environment Id) :
    let text := (request.asText.run env).run
    let json := (request.asJson.run env).run
    text.exitCode = json.exitCode ∧ text.printed = json.printed ∧
      ((¬ ∃ output, request.Reads env output) → text = json) ∧
      ∀ output, request.Reads env output → ∃ document records,
        json.log = request.warnings env output ++ [.plain document] ∧
        FindingRecord.ofDocument? document = some records ∧
        records.length = (Diagnostic.parseOutput output).length ∧
        text.log = request.warnings env output ++ FindingRecord.report env.logger records := by
  intro text json
  have hsame : text.exitCode = json.exitCode ∧ text.printed = json.printed := by
    by_cases h : ∃ output, request.Reads env output
    · obtain ⟨output, h⟩ := h
      have htext : text = _ := h.run_asText
      have hjson : json = _ := h.run_asJson
      rw [htext, hjson]
      exact ⟨rfl, rfl⟩
    · have heq : text = json := run_asText_of_not_reads h
      rw [heq]
      exact ⟨rfl, rfl⟩
  refine ⟨hsame.1, hsame.2, run_asText_of_not_reads, fun output h => ?_⟩
  have hlength : ((request.findings env .plain output).map (·.record)).length =
      (Diagnostic.parseOutput output).length := by
    rw [List.length_map, ← request.map_diagnostic_findings env .plain output, List.length_map]
  exact ⟨_, _, congrArg Outcome.log h.run_asJson, FindingRecord.ofDocument?_document _, hlength,
    congrArg Outcome.log h.run_asText⟩

/-- The three diagnostics of the interleaved output: behind the warning about the file that is
missing, the report is made from the three records of the document. -/
theorem run_asText_interleaved :
    let missing := unavailable (.standard Painter.named) "/work/sub/b.ts"
      "ENOENT: no such file or directory, open '/work/sub/b.ts'"
    let text := ((interleavedRequest "json").asText.run interleavedFiles).run
    let json := ((interleavedRequest "json").asJson.run interleavedFiles).run
    text.exitCode = json.exitCode ∧ text.printed = json.printed ∧ ∃ document records,
      json.log = [missing, .plain document] ∧
      FindingRecord.ofDocument? document = some records ∧
      records.map (fun r => (r.file, r.help.isSome)) =
        [("b.ts".toList, true), ("a.ts".toList, true), ("b.ts".toList, false)] ∧
      text.log = missing :: FindingRecord.report (.standard Painter.named) records := by
  intro missing text json
  obtain ⟨hexit, hprinted, -, hlogs⟩ :=
    run_asText_of_records (interleavedRequest "json") interleavedFiles
  have hreads : (interleavedRequest "json").Reads interleavedFiles interleavedOutput :=
    .file rfl rfl
  obtain ⟨document, records, hjson, hrecords, -, htext⟩ := hlogs interleavedOutput hreads
  rw [warnings_interleaved, List.singleton_append] at hjson htext
  refine ⟨hexit, hprinted, document, records, hjson, hrecords, ?_, htext⟩
  -- the document is that of the findings, so the records are theirs
  have hsame := hjson.symm.trans (congrArg Outcome.log hreads.run_asJson)
  rw [Outcome.success, warnings_interleaved, List.singleton_append, List.cons.injEq,
    List.cons.injEq, LogLine.plain_inj] at hsame
  rw [hsame.2.1, FindingRecord.ofDocument?_document, Option.some.injEq] at hrecords
  rw [← hrecords, List.map_map, ← findings_interleaved "json"]
  apply List.map_congr_left
  intro f hf
  exact congrArg (f.diagnostic.file, ·) (isHelpful_of_mem_findings hf).isSome_help

end ExplainRequest

end DiagnosticHints
