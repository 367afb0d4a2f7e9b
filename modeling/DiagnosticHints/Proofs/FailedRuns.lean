import DiagnosticHints.Proofs.DocumentRun
import DiagnosticHints.Proofs.SpelledCommands

/-!
# Runs that fail

A command that is spelled rightly fails for two reasons only: its format is unknown, which is told
before anything is read, or its input cannot be read. A run that fails says so in one line for
errors and writes nothing else; a run that succeeds writes no such line, whatever is missing. What
is quoted in a line stands there as it is, even if it looks like a hole of a template.
-/

namespace DiagnosticHints

/-- What a run leaves that fails: one line for errors, and nothing else. -/
def Outcome.refused (logger : Logger) (t : Text) : Outcome :=
  ⟨1, [⟨.errors, logger.label .error ++ t⟩], []⟩

theorem Outcome.failed_error (logger : Logger) (t : Text) :
    Outcome.failed (logger.line .error t) = .refused logger t := by
  rw [Outcome.failed, logger.line_error, Outcome.refused]

/-! ## Notices about failures -/

theorem Notice.text_unknownFormat (name : Text) :
    Notice.unknownFormat.text [("format".toList, .text name)] =
      "[THCLI003] unknown format \"".toList ++ name ++ ['\x22'] := by
  have htemplate : Notice.unknownFormat.template =
      "unknown format \"".toList ++ '\x7b' :: ("format".toList ++ '\x7d' :: ['\x22']) := rfl
  have hcode : Notice.unknownFormat.code = "THCLI003".toList := rfl
  rw [text_single htemplate (by decide) (by decide) (by decide) rfl, hcode]
  simp

theorem Notice.text_fileNotFound (path : Text) :
    Notice.fileNotFound.text [("path".toList, .text path)] =
      "[THCLI001] file not found: ".toList ++ path := by
  have htemplate : Notice.fileNotFound.template =
      "file not found: ".toList ++ '\x7b' :: ("path".toList ++ '\x7d' :: []) := rfl
  have hcode : Notice.fileNotFound.code = "THCLI001".toList := rfl
  rw [text_single htemplate (by decide) (by decide) (by decide) rfl, hcode]
  simp

theorem Notice.text_unreadableFile (reason : Text) :
    Notice.unreadableFile.text [("reason".toList, .text reason)] =
      "[THCLI002] cannot read file: ".toList ++ reason := by
  have htemplate : Notice.unreadableFile.template =
      "cannot read file: ".toList ++ '\x7b' :: ("reason".toList ++ '\x7d' :: []) := rfl
  have hcode : Notice.unreadableFile.code = "THCLI002".toList := rfl
  rw [text_single htemplate (by decide) (by decide) (by decide) rfl, hcode]
  simp

namespace Failure

/-- The failure is an error whose code says that there is no such file. -/
def IsMissing (failure : Failure) : Prop :=
  ∃ message, failure = .error message (some (.text "ENOENT"))

theorem isCoded_iff {failure : Failure} : failure.isCoded "ENOENT" = true ↔ failure.IsMissing := by
  constructor
  · intro h
    unfold isCoded at h
    split at h
    · next message t =>
      have ht : t = "ENOENT".toList := beq_iff_eq.1 h
      exact ⟨message, by rw [ht]⟩
    · cases h
  · rintro ⟨message, rfl⟩
    rfl

theorem notice_of_isMissing {failure : Failure} (h : failure.IsMissing) (path : Text) :
    failure.notice path = "[THCLI001] file not found: ".toList ++ path := by
  rw [notice, if_pos (isCoded_iff.2 h)]
  exact Notice.text_fileNotFound path

theorem notice_of_not_isMissing {failure : Failure} (h : ¬ failure.IsMissing) (path : Text) :
    failure.notice path = "[THCLI002] cannot read file: ".toList ++ failure.reason := by
  rw [notice, if_neg (mt isCoded_iff.1 h)]
  exact Notice.text_unreadableFile failure.reason

end Failure

/-! ## The formats -/

namespace Format

theorem ofName?_eq_none_iff {t : Text} :
    ofName? t = none ↔ t ≠ "text".toList ∧ t ≠ "json".toList := by
  have hname : ∀ format : Format, ¬ (format.name == t) = true ↔ t ≠ format.name := by
    intro format
    rw [beq_iff_eq, eq_comm]
  rw [ofName?, List.find?_eq_none]
  constructor
  · intro h
    exact ⟨(hname .text).1 (h .text (by decide)), (hname .json).1 (h .json (by decide))⟩
  · rintro ⟨htext, hjson⟩ format -
    cases format with
    | text => exact (hname .text).2 htext
    | json => exact (hname .json).2 hjson

end Format

namespace ExplainRequest

variable (request : ExplainRequest) (env : Environment Id)

/-- The format is none that is known. -/
def HasUnknownFormat : Prop := request.format ≠ "text".toList ∧ request.format ≠ "json".toList

/-- There is an input, and reading it fails. -/
def FailsToRead (path : Text) (failure : Failure) : Prop :=
  request.input = some path ∧ (env.read path).run = .error failure

variable {request env}

theorem run_of_hasUnknownFormat (h : request.HasUnknownFormat) :
    (request.run env).run = .refused env.logger
      ("[THCLI003] unknown format \"".toList ++ request.format ++ ['\x22']) := by
  rw [run_unknown request env (Format.ofName?_eq_none_iff.2 h), Outcome.failed_error]
  exact congrArg _ (Notice.text_unknownFormat request.format)

theorem run_of_failsToRead {path : Text} {failure : Failure} (hformat : ¬ request.HasUnknownFormat)
    (h : request.FailsToRead env path failure) :
    (request.run env).run = .refused env.logger (failure.notice path) := by
  obtain ⟨format, hname⟩ := Option.ne_none_iff_exists'.1 (mt Format.ofName?_eq_none_iff.1 hformat)
  rw [run_unreadable hname h.1 h.2, Outcome.failed_error]

theorem stream_of_mem_report {format : Format} {logger : Logger} {findings : List Finding} :
    ∀ line ∈ report format logger findings, line.stream = .output := by
  intro line hline
  cases format with
  | json =>
    rw [report_json, List.mem_singleton] at hline
    rw [hline]
    rfl
  | text =>
    rw [report_text, List.mem_append, List.mem_flatMap, List.mem_singleton] at hline
    rcases hline with ⟨f, -, hline⟩ | rfl
    · rcases List.mem_pair.1 hline with rfl | rfl
      · rfl
      · rfl
    · exact logger.stream_info

/-- A run with an output to explain writes no line for errors, whatever sources are missing. -/
theorem Reads.run_of_known {output : Text} (h : request.Reads env output)
    (hformat : ¬ request.HasUnknownFormat) :
    ∃ lines, (request.run env).run = .success (request.warnings env output ++ lines) ∧
      ∀ line ∈ request.warnings env output ++ lines, line.stream = .output := by
  obtain ⟨format, hname⟩ := Option.ne_none_iff_exists'.1 (mt Format.ofName?_eq_none_iff.1 hformat)
  refine ⟨_, h.run_eq hname, fun line hline => ?_⟩
  rcases List.mem_append.1 hline with hwarning | hreport
  · exact (of_mem_warnings hwarning).1
  · exact stream_of_mem_report line hreport

/-- A run with a known format and an input that can be read, if there is one, succeeds. -/
theorem exists_run_eq_success (hformat : ¬ request.HasUnknownFormat)
    (hinput : ¬ ∃ path failure, request.FailsToRead env path failure) :
    ∃ output lines, request.Reads env output ∧
      (request.run env).run = .success (request.warnings env output ++ lines) ∧
      ∀ line ∈ (request.run env).run.log, line.stream = .output := by
  obtain ⟨output, hreads⟩ := (request.reads_or_unreadable env).resolve_right hinput
  obtain ⟨lines, hrun, hstream⟩ := hreads.run_of_known hformat
  refine ⟨output, lines, hreads, hrun, ?_⟩
  rw [hrun]
  exact hstream

variable (request env) in
theorem exitCode_eq_one_iff :
    (request.run env).run.exitCode = 1 ↔
      request.HasUnknownFormat ∨ ∃ path failure, request.FailsToRead env path failure := by
  constructor
  · intro hexit
    by_contra hnone
    obtain ⟨hformat, hinput⟩ := not_or.1 hnone
    obtain ⟨output, lines, -, hsuccess, -⟩ := exists_run_eq_success hformat hinput
    rw [hsuccess] at hexit
    cases hexit
  · intro hcause
    by_cases hformat : request.HasUnknownFormat
    · rw [run_of_hasUnknownFormat hformat]
      rfl
    · obtain ⟨path, failure, h⟩ := hcause.resolve_left hformat
      rw [run_of_failsToRead hformat h]
      rfl

end ExplainRequest

/-- A run of a command that is spelled rightly is a run of the request that is made. -/
theorem Choice.Spells.runCommandLine {words : List Text} {choices : List Choice}
    (h : Choice.Spells words choices) (honce : (choices.map Choice.flag?).Nodup)
    (env : Environment Id) :
    DiagnosticHints.runCommandLine env ("explain".toList :: words) =
      (Choice.request choices).run env := by
  rw [DiagnosticHints.runCommandLine, h.ofArguments honce]
  rfl

/-- **When a command fails, and how.**  A command that explains, in words that spell some choices,
each kind of them at most once, fails if and only if its format is unknown or its input cannot be
read. What it leaves is then one line for errors and nothing else: with an unknown format the line
names the format, whatever there is to read, and else it names the path of a file that is not there,
or the reason why a file cannot be read. Otherwise the run succeeds, and no line is written for
errors; each source that cannot be read is warned about. -/
theorem runCommandLine_explain (env : Environment Id) {words : List Text} {choices : List Choice}
    (hwords : Choice.Spells words choices) (honce : (choices.map Choice.flag?).Nodup) :
    let request := Choice.request choices
    let outcome := (runCommandLine env ("explain".toList :: words)).run
    (outcome.exitCode = 1 ↔
      request.HasUnknownFormat ∨ ∃ path failure, request.FailsToRead env path failure) ∧
    (request.HasUnknownFormat → outcome = .refused env.logger
      ("[THCLI003] unknown format \"".toList ++ request.format ++ ['\x22'])) ∧
    (¬ request.HasUnknownFormat → ∀ path failure, request.FailsToRead env path failure →
      (failure.IsMissing → outcome = .refused env.logger
        ("[THCLI001] file not found: ".toList ++ path)) ∧
      (¬ failure.IsMissing → outcome = .refused env.logger
        ("[THCLI002] cannot read file: ".toList ++ failure.reason))) ∧
    (¬ request.HasUnknownFormat → (¬ ∃ path failure, request.FailsToRead env path failure) →
      ∃ output lines, request.Reads env output ∧
        outcome = .success (request.warnings env output ++ lines) ∧
        ∀ line ∈ outcome.log, line.stream = .output) := by
  intro request outcome
  have houtcome : outcome = (request.run env).run :=
    congrArg Id.run (hwords.runCommandLine honce env)
  rw [houtcome]
  refine ⟨request.exitCode_eq_one_iff env, ExplainRequest.run_of_hasUnknownFormat, ?_,
    ExplainRequest.exists_run_eq_success⟩
  intro hformat path failure h
  rw [ExplainRequest.run_of_failsToRead hformat h]
  constructor
  · intro hmissing
    rw [Failure.notice_of_isMissing hmissing]
  · intro hmissing
    rw [Failure.notice_of_not_isMissing hmissing]

/-- The words of a command with an input, a switch and a format. -/
def threeChoices (format : Text) : List Text :=
  ["{path}".toList, "--plain".toList, "-f".toList, format]

/-- A file that is not there is named as it was typed; with an unknown format the format is named
in its place. -/
theorem runCommandLine_threeChoices :
    let env := Environment.listed [] []
    (runCommandLine env ("explain".toList :: threeChoices "json")).run =
      .refused (.standard Painter.named) "[THCLI001] file not found: {path}" ∧
    (runCommandLine env ("explain".toList :: threeChoices "{format}")).run =
      .refused (.standard Painter.named) "[THCLI003] unknown format \"{format}\"" := by
  intro env
  have hspells : ∀ format, Choice.IsValue format → Choice.Spells (threeChoices format)
      [.input "{path}", .plain, .format format] := by
    intro format hformat
    exact .input (Or.inl (by decide)) (.plain (by simp) (.formatLetter hformat .nil))
  have hjson := runCommandLine_explain env (hspells "json" (by decide)) (by decide)
  have hother := runCommandLine_explain env (hspells "{format}" (by decide)) (by decide)
  constructor
  · have hknown : ¬ (Choice.request [.input "{path}", .plain, .format "json"]).HasUnknownFormat :=
      fun h => h.2 rfl
    exact (hjson.2.2.1 hknown "{path}" _ ⟨rfl, rfl⟩).1 ⟨_, rfl⟩
  · have hunknown : (Choice.request [.input "{path}", .plain, .format "{format}"]).HasUnknownFormat :=
      ⟨by decide, by decide⟩
    exact hother.2.1 hunknown

end DiagnosticHints
