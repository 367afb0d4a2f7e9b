import DiagnosticHints.Proofs.ExplainRun
import DiagnosticHints.Proofs.JsonReading

/-!
# Output from a file and from standard input

One byte order mark is dropped from the front of standard input and none from a file. There it
becomes a part of the file name if the first line is a diagnostic, so that its source is looked for
in another place and the report names another file. In all other cases the two ways to hand over an
output lead to the same run.
-/

namespace DiagnosticHints

open Text (byteOrderMark)

namespace Diagnostic

/-! ## A mark in front of a diagnostic -/

/-- The diagnostic with a byte order mark in front of its file name. -/
def mark (d : Diagnostic) : Diagnostic := { d with file := byteOrderMark :: d.file }

theorem dropReturn_mark (line : Text) :
    dropReturn (byteOrderMark :: line) = byteOrderMark :: dropReturn line := by
  cases line with
  | nil => rfl
  | cons c t =>
    rw [dropReturn, dropReturn, List.getLast?_cons_cons, List.dropLast_cons_cons]
    split <;> rfl

theorem splitFirst?_mark (t : Text) :
    Text.splitFirst? ['('] (byteOrderMark :: t) =
      (Text.splitFirst? ['('] t).map fun (before, after) => (byteOrderMark :: before, after) := by
  have hmark : ¬ ['('].isPrefixOf (byteOrderMark :: t) = true := by
    simp [List.isPrefixOf, byteOrderMark]
  rw [Text.splitFirst?, if_neg hmark]

/-- A mark in front of a line is read as a part of the file name. -/
theorem parse?_mark (line : Text) :
    parse? (byteOrderMark :: line) = (parse? line).map mark := by
  rw [parse?, dropReturn_mark, splitFirst?_mark, parse?]
  cases Text.splitFirst? ['('] (dropReturn line) with
  | none => rfl
  | some parts =>
    obtain ⟨file, rest⟩ := parts
    simp [Option.map_bind, Function.comp_def, mark]

/-- The first line of a marked output is read with the mark, and all others as they are. -/
theorem parseOutput_mark {rest first : Text} {others : List Text}
    (h : rest.splitOn '\n' = first :: others) :
    parseOutput (byteOrderMark :: rest) =
      (parse? first).toList.map mark ++ others.filterMap parse? := by
  have hlines : (byteOrderMark :: rest).splitOn '\n' = (byteOrderMark :: first) :: others := by
    rw [List.splitOn] at h ⊢
    rw [List.splitOnP_cons_eq_if_modifyHead, if_neg (by decide), h, List.modifyHead_cons]
  rw [parseOutput, hlines, List.filterMap_cons, parse?_mark]
  cases parse? first <;> rfl

theorem parseOutput_of_splitOn {rest first : Text} {others : List Text}
    (h : rest.splitOn '\n' = first :: others) :
    parseOutput rest = (parse? first).toList ++ others.filterMap parse? := by
  rw [parseOutput, h, List.filterMap_cons]
  cases parse? first <;> rfl

/-- The output starts with a byte order mark and a diagnostic on the rest of its first line. -/
def StartsMarked (output : Text) : Prop :=
  ∃ rest, output = byteOrderMark :: rest ∧ parse? ((rest.splitOn '\n').headD []) ≠ none

/-- A mark that stands before no diagnostic does not matter. -/
theorem parseOutput_dropMark {output : Text} (h : ¬ StartsMarked output) :
    parseOutput (Text.dropMark output) = parseOutput output := by
  cases output with
  | nil => rfl
  | cons c rest =>
    rw [Text.dropMark]
    by_cases hc : c = byteOrderMark
    · subst hc
      obtain ⟨first, others, hsplit⟩ := List.exists_cons_of_ne_nil
        (List.splitOnP_ne_nil (· == '\n') rest)
      have hfirst : parse? first = none := by
        apply Decidable.byContradiction
        intro hsome
        exact h ⟨rest, rfl, by rwa [List.splitOn, hsplit]⟩
      rw [if_pos rfl, parseOutput_mark hsplit, parseOutput_of_splitOn hsplit, hfirst]
      rfl
    · rw [if_neg hc]

/-- A mark before a diagnostic becomes a part of its file name, and matters nowhere else. -/
theorem StartsMarked.parseOutput {output : Text} (h : StartsMarked output) :
    ∃ d ds, Diagnostic.parseOutput (Text.dropMark output) = d :: ds ∧
      Diagnostic.parseOutput output = d.mark :: ds := by
  obtain ⟨rest, rfl, hsome⟩ := h
  obtain ⟨first, others, hsplit⟩ := List.exists_cons_of_ne_nil
    (List.splitOnP_ne_nil (· == '\n') rest)
  rw [List.splitOn, hsplit, List.headD_cons] at hsome
  obtain ⟨d, hd⟩ := Option.ne_none_iff_exists'.1 hsome
  refine ⟨d, others.filterMap parse?, ?_, ?_⟩
  · rw [Text.dropMark, if_pos rfl, parseOutput_of_splitOn hsplit, hd]
    rfl
  · rw [parseOutput_mark hsplit, hd]
    rfl

end Diagnostic

/-! ## Reports that tell a mark -/

theorem cons_append_ne {c mark : Char} (h : mark ≠ c) (t before after : Text) :
    mark :: (t ++ c :: before) ≠ t ++ c :: after := by
  induction t with
  | nil =>
    intro heq
    exact h (List.cons.inj heq).1
  | cons d t ih =>
    intro heq
    obtain ⟨rfl, htail⟩ := List.cons.inj heq
    exact ih htail

theorem exists_joinLines_cons (t : Text) (ts : List Text) :
    ∃ rest, Text.joinLines (t :: ts) = t ++ rest := by
  cases ts with
  | nil => exact ⟨[], by simp [Text.joinLines]⟩
  | cons u us => exact ⟨_, Text.joinLines_cons_cons t u us⟩

namespace Finding

variable {f g : Finding}

theorem heading_eq_of_mark (h : f.diagnostic = g.diagnostic.mark) : f.heading = g.heading := by
  have hkind : f.diagnostic.kind = g.diagnostic.kind := by rw [h]; rfl
  have hmessage : f.diagnostic.message = g.diagnostic.message := by rw [h]; rfl
  unfold heading
  rw [hkind, hmessage]

/-- The place of a finding tells whether there is a mark in front of the file name. -/
theorem explanation_ne (h : f.diagnostic = g.diagnostic.mark) : f.explanation ≠ g.explanation := by
  intro heq
  rw [explanation, explanation, Text.joinLines_cons_cons, Text.joinLines_cons_cons,
    heading_eq_of_mark h, List.append_right_inj, List.cons.injEq] at heq
  have hplaces := heq.2
  obtain ⟨before, hbefore⟩ := exists_joinLines_cons f.place (advice f.suggestion)
  obtain ⟨after, hafter⟩ := exists_joinLines_cons g.place (advice g.suggestion)
  rw [hbefore, hafter] at hplaces
  unfold place at hplaces
  rw [h] at hplaces
  simp only [Diagnostic.mark, List.append_assoc, List.cons_append,
    List.append_right_inj] at hplaces
  exact cons_append_ne (by decide) _ _ _ hplaces

theorem document_ne (fs gs : List Finding) (h : f.diagnostic = g.diagnostic.mark) :
    document (f :: fs) ≠ document (g :: gs) := by
  intro heq
  have hread := Json.read?_document (.array ((f :: fs).map fun f => f.record.toJson))
  rw [← document, heq, document, Json.read?_document, Option.some.injEq, Json.array.injEq,
    List.map_cons, List.map_cons, List.cons.injEq] at hread
  have hfile : g.diagnostic.file = f.diagnostic.file := by
    have hrecord := hread.1
    simp only [FindingRecord.toJson, Json.object.injEq, List.cons.injEq, Prod.mk.injEq,
      Json.text.injEq] at hrecord
    exact hrecord.2.2.1.2
  rw [h, Diagnostic.mark] at hfile
  exact List.cons_ne_self _ _ hfile.symm

end Finding

namespace ExplainRequest

theorem length_report (format : Format) (logger : Logger) {fs gs : List Finding}
    (h : fs.length = gs.length) :
    (report format logger fs).length = (report format logger gs).length := by
  cases format with
  | json => rfl
  | text =>
    rw [report, report]
    simp [h]

theorem report_ne (format : Format) (logger : Logger) {f g : Finding} (fs gs : List Finding)
    (h : f.diagnostic = g.diagnostic.mark) :
    report format logger (f :: fs) ≠ report format logger (g :: gs) := by
  intro heq
  cases format with
  | json =>
    rw [report_json, report_json, List.cons.injEq] at heq
    exact Finding.document_ne fs gs h (LogLine.plain_inj.1 heq.1)
  | text =>
    rw [report_text, report_text, List.flatMap_cons, List.flatMap_cons] at heq
    have hhead := (List.cons.inj heq).1
    exact Finding.explanation_ne h (LogLine.plain_inj.1 hhead)

/-! ## The two channels -/

/-- The request for an output in a file. -/
def fromFile (request : ExplainRequest) (path : Text) : ExplainRequest :=
  { request with input := some path }

/-- The request for an output on standard input. -/
def fromInput (request : ExplainRequest) : ExplainRequest := { request with input := none }

/-- The log of a run about some diagnostics; no channel has a part in it. -/
def logOf (request : ExplainRequest) (env : Environment Id) (format : Format)
    (ds : List Diagnostic) : List LogLine :=
  (Analysis.files ds).filterMap (request.warning? env) ++
    report format env.logger (Analysis.ofDiagnostics (request.tokensFor env)
      ⟨request.emphasis format env.paint, fun _ => none⟩ ds).run

section

variable (request : ExplainRequest) (env : Environment Id) {format : Format} {path output : Text}

theorem run_fromFile (hname : Format.ofName? request.format = some format)
    (hread : (env.read path).run = .ok output) :
    ((request.fromFile path).run env).run =
      .success (request.logOf env format (Diagnostic.parseOutput output)) := by
  have h : (request.fromFile path).Reads env output := .file rfl hread
  rw [h.run_eq hname]
  rfl

theorem run_fromInput (hname : Format.ofName? request.format = some format) :
    (request.fromInput.run { env with input := pure output }).run =
      .success (request.logOf env format (Diagnostic.parseOutput (Text.dropMark output))) := by
  have h : request.fromInput.Reads { env with input := pure output } (Text.dropMark output) :=
    .input rfl
  rw [h.run_eq hname]
  rfl

theorem logOf_mark_ne (format : Format) (d : Diagnostic) (ds : List Diagnostic) :
    request.logOf env format (d.mark :: ds) ≠ request.logOf env format (d :: ds) := by
  intro heq
  rw [logOf, logOf, Analysis.run_ofDiagnostics, Analysis.run_ofDiagnostics] at heq
  obtain ⟨-, hreports⟩ := List.append_inj' heq (length_report format env.logger (by simp))
  exact report_ne format env.logger _ _ rfl hreports

/-- A mark in front of a diagnostic is told by the log. -/
theorem run_fromFile_ne (hname : Format.ofName? request.format = some format)
    (hread : (env.read path).run = .ok output) (hmarked : Diagnostic.StartsMarked output) :
    ((request.fromFile path).run env).run ≠
      (request.fromInput.run { env with input := pure output }).run := by
  intro heq
  obtain ⟨d, ds, hdropped, hkept⟩ := hmarked.parseOutput
  rw [run_fromFile request env hname hread, run_fromInput request env hname, hdropped,
    hkept] at heq
  exact request.logOf_mark_ne env format d ds (congrArg Outcome.log heq)

/-- **When the two channels agree.**  A run with an output in a file is the run with one more byte
order mark in front of it on standard input. It is the run with the same text on standard input
unless the format is known and the text starts with a mark and a diagnostic. -/
theorem run_fromFile_eq_run_fromInput_iff (hread : (env.read path).run = .ok output) :
    ((request.fromFile path).run env).run =
      (request.fromInput.run { env with input := pure (byteOrderMark :: output) }).run ∧
    (((request.fromFile path).run env).run =
        (request.fromInput.run { env with input := pure output }).run ↔
      Format.ofName? request.format = none ∨ ¬ Diagnostic.StartsMarked output) := by
  cases hname : Format.ofName? request.format with
  | none =>
    rw [(request.fromFile path).run_unknown env hname, request.fromInput.run_unknown _ hname,
      request.fromInput.run_unknown _ hname]
    exact ⟨rfl, fun _ => Or.inl rfl, fun _ => rfl⟩
  | some format =>
    refine ⟨?_, fun heq => Or.inr fun hmarked => ?_, fun hmarked => ?_⟩
    · rw [run_fromFile request env hname hread, run_fromInput request env hname, Text.dropMark,
        if_pos rfl]
    · exact run_fromFile_ne request env hname hread hmarked heq
    · rw [run_fromFile request env hname hread, run_fromInput request env hname,
        Diagnostic.parseOutput_dropMark (hmarked.resolve_left (Option.some_ne_none format))]

end

/-- A request for explanations without colour. -/
def plainRequest : ExplainRequest := ⟨none, none, "text", true⟩

/-- The output in two files, one of them with a byte order mark, and its source. -/
def markedFiles : Environment Id :=
  .listed [] [("plain.txt".toList, singleOutput),
    ("marked.txt".toList, byteOrderMark :: singleOutput), ("/work/a.ts".toList, "x".toList)]

theorem startsMarked_singleOutput : Diagnostic.StartsMarked (byteOrderMark :: singleOutput) :=
  ⟨singleOutput, rfl, by decide +kernel⟩

/-- The channels agree about the output without a mark, and not about the other one. -/
theorem run_fromFile_markedFiles :
    ((plainRequest.fromFile "plain.txt").run markedFiles).run =
      (plainRequest.fromInput.run { markedFiles with input := pure singleOutput }).run ∧
    ((plainRequest.fromFile "marked.txt").run markedFiles).run ≠
      (plainRequest.fromInput.run
        { markedFiles with input := pure (byteOrderMark :: singleOutput) }).run := by
  constructor
  · rw [(run_fromFile_eq_run_fromInput_iff plainRequest markedFiles rfl).2]
    refine Or.inr ?_
    rintro ⟨rest, hrest, -⟩
    have hhead : byteOrderMark = 'a' := (List.cons.inj hrest).1.symm
    cases hhead
  · rw [ne_eq, (run_fromFile_eq_run_fromInput_iff plainRequest markedFiles rfl).2, not_or,
      Classical.not_not]
    exact ⟨by decide, startsMarked_singleOutput⟩

/-- The two channels do not agree about every text. -/
theorem not_forall_run_fromFile_eq :
    ¬ ∀ (request : ExplainRequest) (env : Environment Id) (path output : Text),
      (env.read path).run = .ok output →
      ((request.fromFile path).run env).run =
        (request.fromInput.run { env with input := pure output }).run := by
  intro h
  have hname : Format.ofName? plainRequest.format = some .text := rfl
  have hread : (markedFiles.read "marked.txt".toList).run =
      .ok (byteOrderMark :: singleOutput) := rfl
  exact run_fromFile_ne plainRequest markedFiles hname hread startsMarked_singleOutput
    (h plainRequest markedFiles _ _ hread)

end ExplainRequest

end DiagnosticHints
