import DiagnosticHints.Analysis
import DiagnosticHints.Proofs.LineGrammar

/-!
# Canonical lines

A diagnostic that was read can be written on a line again: its place without leading zeros, and the
first code of its problem instead of another one. That line is made of well-formed parts too, and it
stands for the same diagnostic, but for a carriage return at the end of the message, which a line
cannot hold. So an output may be replaced by the lines of its diagnostics, and the second time
nothing changes any more.
-/

namespace DiagnosticHints

/-! ## Codes -/

/-- The code of a kind is the code that was read or the one that stands for its problem. -/
theorem Kind.code_ofCode (c : Text) :
    (Kind.ofCode c).code = c ∨ ∃ p : Problem, (Kind.ofCode c).code = p.code := by
  cases h : Problem.ofCode? c with
  | none => exact Or.inl (by simp [Kind.ofCode, Kind.code, h])
  | some p => exact Or.inr ⟨p, by simp [Kind.ofCode, Kind.code, h]⟩

theorem Problem.not_infix_code (p : Problem) : ¬ ": ".toList <:+: p.code := by
  cases p <;> decide +kernel

theorem Problem.lineFeed_not_mem_code (p : Problem) : '\n' ∉ p.code := by
  cases p <;> decide +kernel

namespace LineParts

/-! ## Canonical parts -/

/-- The parts with their numbers and their code as a diagnostic is written with. -/
def canonical (p : LineParts) : LineParts where
  file := p.file
  row := Text.ofNat (Nat.ofDigitChars 10 p.row 0)
  column := Text.ofNat (Nat.ofDigitChars 10 p.column 0)
  code := (Kind.ofCode p.code).code
  message := p.message

theorem text_canonical (p : LineParts) : p.canonical.text = p.diagnostic.render := by
  rw [text_eq]
  simp [canonical, place, detail, Diagnostic.render, diagnostic, Text.ofInt_natCast]

theorem WellFormed.canonical {p : LineParts} (h : p.WellFormed) : p.canonical.WellFormed where
  file := h.file
  row := isCoordinate_ofNat h.row.value_le
  column := isCoordinate_ofNat h.column.value_le
  code := by
    intro hin
    rcases Kind.code_ofCode p.code with heq | ⟨problem, heq⟩
    · exact h.code (heq ▸ hin)
    · exact problem.not_infix_code (heq ▸ hin)

theorem diagnostic_canonical (p : LineParts) : p.canonical.diagnostic = p.diagnostic := by
  simp [canonical, diagnostic, ofDigitChars_ofNat, Kind.ofCode_code_ofCode]

/-- The parts with a message that a line can hold. -/
def dropReturn (p : LineParts) : LineParts := { p with message := Diagnostic.dropReturn p.message }

/-- The line loses what the message loses, as the mark in front of it does not end in a carriage
return. -/
theorem dropReturn_text (p : LineParts) : Diagnostic.dropReturn p.text = p.dropReturn.text := by
  have hmark : Diagnostic.dropReturn (": ".toList ++ p.message) =
      ": ".toList ++ Diagnostic.dropReturn p.message := by
    by_cases hm : p.message = []
    · rw [hm]
      decide
    · exact Diagnostic.dropReturn_append _ hm
  rw [text, text, List.append_assoc _ ": ".toList,
    Diagnostic.dropReturn_append _ (by simp), hmark, ← List.append_assoc]
  rfl

theorem lineFeed_not_mem_canonical {p : LineParts} (h : p.WellFormed) (hp : '\n' ∉ p.text) :
    '\n' ∉ p.canonical.text := by
  have hrow : '\n' ∉ p.canonical.row := h.canonical.row.not_mem rfl
  have hcolumn : '\n' ∉ p.canonical.column := h.canonical.column.not_mem rfl
  simp only [text, List.mem_append, not_or] at hp ⊢
  obtain ⟨⟨⟨⟨⟨⟨⟨⟨hfile, hopen⟩, -⟩, hcomma⟩, -⟩, hclose⟩, hcode⟩, hcolon⟩, hmessage⟩ := hp
  have hcode' : '\n' ∉ p.canonical.code := by
    intro hmem
    rcases Kind.code_ofCode p.code with heq | ⟨problem, heq⟩
    · exact hcode (heq ▸ hmem)
    · exact problem.lineFeed_not_mem_code (heq ▸ hmem)
  exact ⟨⟨⟨⟨⟨⟨⟨⟨hfile, hopen⟩, hrow⟩, hcomma⟩, hcolumn⟩, hclose⟩, hcode'⟩, hcolon⟩, hmessage⟩

end LineParts

namespace Diagnostic

/-! ## Reading a diagnostic again -/

/-- The diagnostic with a message that a line can hold. -/
def dropMessageReturn (d : Diagnostic) : Diagnostic := { d with message := dropReturn d.message }

/-- The line of a diagnostic that was read is read as this diagnostic again, without a carriage
return at the end of its message. -/
theorem parse?_render {line : Text} {d : Diagnostic} (h : parse? line = some d) :
    parse? d.render = some d.dropMessageReturn := by
  obtain ⟨p, hp, -, rfl⟩ := LineParts.exists_of_parse? h
  have hread : p.canonical.dropReturn.WellFormed :=
    ⟨hp.canonical.file, hp.canonical.row, hp.canonical.column, hp.canonical.code⟩
  rw [← p.text_canonical, hread.parse? p.canonical.dropReturn_text]
  show some { p.canonical.diagnostic with message := dropReturn p.message } = _
  rw [p.diagnostic_canonical]
  rfl

theorem lineFeed_not_mem_render {line : Text} {d : Diagnostic} (h : parse? line = some d)
    (hline : '\n' ∉ line) : '\n' ∉ d.render := by
  obtain ⟨p, hp, htext, rfl⟩ := LineParts.exists_of_parse? h
  rw [← p.text_canonical]
  apply LineParts.lineFeed_not_mem_canonical hp
  rw [htext, dropReturn]
  split
  · intro hmem
    exact hline (List.mem_of_mem_dropLast hmem)
  · exact hline

/-! ## Outputs -/

/-- The lines of some diagnostics. -/
def renderAll (ds : List Diagnostic) : Text := Text.joinLines (ds.map render)

theorem mem_parseOutput {output : Text} {d : Diagnostic} :
    d ∈ parseOutput output ↔ ∃ line ∈ output.splitOn '\n', parse? line = some d := by
  rw [parseOutput, List.mem_filterMap]

theorem parseOutput_joinLines {lines : List Text} (h : ∀ line ∈ lines, '\n' ∉ line) :
    parseOutput (Text.joinLines lines) = lines.filterMap parse? := by
  by_cases hnil : lines = []
  · rw [hnil]
    rfl
  · rw [parseOutput, Text.joinLines, List.splitOn_intercalate '\n' h hnil]

/-- Written and read again, the diagnostics of an output keep everything but a carriage return at
the end of their messages. -/
theorem parseOutput_renderAll (output : Text) :
    parseOutput (renderAll (parseOutput output)) =
      (parseOutput output).map dropMessageReturn := by
  have hfeed : ∀ line ∈ (parseOutput output).map render, '\n' ∉ line := by
    intro line hmem
    obtain ⟨d, hd, rfl⟩ := List.mem_map.1 hmem
    obtain ⟨line, hline, hparse⟩ := mem_parseOutput.1 hd
    exact lineFeed_not_mem_render hparse (Text.not_mem_of_mem_splitOn hline)
  have hread : ∀ d ∈ parseOutput output, parse? d.render = some d.dropMessageReturn := by
    intro d hd
    obtain ⟨line, -, hparse⟩ := mem_parseOutput.1 hd
    exact parse?_render hparse
  calc parseOutput (renderAll (parseOutput output))
      = ((parseOutput output).map render).filterMap parse? := parseOutput_joinLines hfeed
    _ = (parseOutput output).filterMap fun d => parse? d.render := List.filterMap_map
    _ = (parseOutput output).filterMap fun d => some d.dropMessageReturn :=
        List.filterMap_congr hread
    _ = (parseOutput output).map dropMessageReturn := by rw [← List.filterMap_eq_map']

/-- **Writing an output again changes nothing.**  When no message ends in a carriage return, the
lines of the diagnostics of an output are read as these diagnostics, so that the analysis of the
lines is that of the output, wherever its tokens come from and whatever loading them does. -/
theorem parseOutput_renderAll_eq_self {output : Text}
    (h : ∀ d ∈ parseOutput output, d.message.getLast? ≠ some '\r') :
    parseOutput (renderAll (parseOutput output)) = parseOutput output ∧
      ∀ {m : Type → Type} [Monad m] (tokensFor : Text → m (List Token)) (options : Options),
        Analysis.ofOutput tokensFor options (renderAll (parseOutput output)) =
          Analysis.ofOutput tokensFor options output := by
  have hkeep : ∀ d ∈ parseOutput output, d.dropMessageReturn = d := by
    intro d hd
    rw [dropMessageReturn, dropReturn, if_neg (h d hd)]
  have hsame : parseOutput (renderAll (parseOutput output)) = parseOutput output := by
    rw [parseOutput_renderAll, List.map_congr_left hkeep, List.map_id']
  refine ⟨hsame, ?_⟩
  intro m _ tokensFor options
  rw [Analysis.ofOutput, Analysis.ofOutput, hsame]

/-- An output with a code that is not the first one of its problem, leading zeros, an unknown code
and a message that look like marks, and a line that is no diagnostic. -/
def writtenOtherwise : Text :=
  "a.ts(007,1): error TS7044: no (1,2): error TS1: m\r\n".toList ++
    "3 errors\nb c(01,020): error E:1: m\r".toList

theorem parseOutput_renderAll_writtenOtherwise :
    renderAll (parseOutput writtenOtherwise) =
      "a.ts(7,1): error TS7006: no (1,2): error TS1: m\nb c(1,20): error E:1: m".toList ∧
    (∀ d ∈ parseOutput writtenOtherwise, d.message.getLast? ≠ some '\r') ∧
    parseOutput (renderAll (parseOutput writtenOtherwise)) = parseOutput writtenOtherwise :=
  have h : ∀ d ∈ parseOutput writtenOtherwise, d.message.getLast? ≠ some '\r' := by
    decide +kernel
  ⟨by decide +kernel, h, (parseOutput_renderAll_eq_self h).1⟩

end Diagnostic

end DiagnosticHints
