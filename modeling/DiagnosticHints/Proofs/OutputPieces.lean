import DiagnosticHints.Proofs.CanonicalLines
import DiagnosticHints.Proofs.LoadedOnce

/-!
# Outputs in pieces

An output is read line by line, and a line is read by itself. So an output may be cut at any line
feed and its pieces be read one by one; a line may end in a line feed alone or with a carriage return
in front of it, in any mixture; and lines that are no diagnostics may stand anywhere between the
others. An analysis sees no more of an output than its diagnostics, and where the tokens come without
an effect, having loaded some of them for one piece makes no difference to the next.
-/

namespace DiagnosticHints

/-- Two outputs with the same diagnostics and, whatever the tokens come from and whatever loading them
does, the same analysis. -/
def Analysis.Interchangeable (output other : Text) : Prop :=
  Diagnostic.parseOutput other = Diagnostic.parseOutput output ∧
    ∀ {m : Type → Type} [Monad m] (tokensFor : Text → m (List Token)) (options : Options),
      ofOutput tokensFor options other = ofOutput tokensFor options output

theorem Analysis.interchangeable_of_parseOutput {output other : Text}
    (h : Diagnostic.parseOutput other = Diagnostic.parseOutput output) :
    Interchangeable output other := by
  refine ⟨h, ?_⟩
  intro m _ tokensFor options
  rw [ofOutput, ofOutput, h]

namespace Diagnostic

/-! ## Pieces -/

theorem parseOutput_append_lineFeed (a b : Text) :
    parseOutput (a ++ '\n' :: b) = parseOutput a ++ parseOutput b := by
  rw [parseOutput, List.splitOn_append_cons_self, List.filterMap_append]
  rfl

theorem parseOutput_line {line : Text} (h : '\n' ∉ line) :
    parseOutput line = (parse? line).toList := by
  rw [parseOutput, List.splitOn_eq_singleton h, List.filterMap_cons, List.filterMap_nil]
  cases parse? line <;> rfl

/-- The findings for two pieces are those for the first one and those for the second one. -/
theorem run_ofOutput_append_lineFeed (tokensFor : Text → Id (List Token)) (options : Options)
    (a b : Text) :
    (Analysis.ofOutput tokensFor options (a ++ '\n' :: b)).run =
      (Analysis.ofOutput tokensFor options a).run ++
        (Analysis.ofOutput tokensFor options b).run := by
  rw [Analysis.ofOutput, Analysis.ofOutput, Analysis.ofOutput, Analysis.run_ofDiagnostics,
    Analysis.run_ofDiagnostics, Analysis.run_ofDiagnostics, parseOutput_append_lineFeed,
    List.map_append]

/-! ## Line ends -/

/-- The second text is the first one with a carriage return in front of some of its line feeds. -/
inductive Returned : Text → Text → Prop
  | nil : Returned [] []
  | keep (c : Char) {t u : Text} : Returned t u → Returned (c :: t) (c :: u)
  | feed {t u : Text} : Returned t u → Returned ('\n' :: t) ('\r' :: '\n' :: u)

/-- A carriage return behind a line is passed over, unless the line ends in one itself. -/
theorem parse?_append_return {line : Text} (h : line.getLast? ≠ some '\r') :
    parse? (line ++ ['\r']) = parse? line := by
  have hdrop : dropReturn (line ++ ['\r']) = dropReturn line := by
    rw [dropReturn, if_pos List.getLast?_concat, List.dropLast_concat, dropReturn, if_neg h]
  rw [parse?, parse?, hdrop]

/-- A carriage return may be put in front of each line feed that has none. The start of the first
line is carried along, as it matters for the return what that line ends in. -/
theorem Returned.parseOutput_append {t u : Text} (h : Returned t u) :
    ∀ start : Text, '\n' ∉ start → ¬ "\r\n".toList <:+: start ++ t →
      parseOutput (start ++ u) = parseOutput (start ++ t) := by
  induction h with
  | nil =>
    intro start _ _
    rfl
  | @keep c t u _ ih =>
    intro start hstart hreturn
    by_cases hc : c = '\n'
    · subst hc
      have htail : ¬ "\r\n".toList <:+: [] ++ t := by
        intro hin
        exact hreturn (hin.trans ⟨start ++ ['\n'], [], by simp⟩)
      rw [parseOutput_append_lineFeed, parseOutput_append_lineFeed]
      exact congrArg (parseOutput start ++ ·) (ih [] List.not_mem_nil htail)
    · have hmore : '\n' ∉ start ++ [c] := by
        simp [hstart, Ne.symm hc]
      rw [List.append_cons] at hreturn
      rw [List.append_cons start c u, List.append_cons start c t]
      exact ih (start ++ [c]) hmore hreturn
  | @feed t u _ ih =>
    intro start hstart hreturn
    have htail : ¬ "\r\n".toList <:+: [] ++ t := by
      intro hin
      exact hreturn (hin.trans ⟨start ++ ['\n'], [], by simp⟩)
    have hlast : start.getLast? ≠ some '\r' := by
      intro hlast
      obtain ⟨before, rfl⟩ := List.getLast?_eq_some_iff.1 hlast
      exact hreturn ⟨before, t, by simp⟩
    have hline : '\n' ∉ start ++ ['\r'] := by
      simp [hstart]
    calc parseOutput (start ++ '\r' :: '\n' :: u)
        = parseOutput ((start ++ ['\r']) ++ '\n' :: u) := by rw [← List.append_cons]
      _ = parseOutput (start ++ ['\r']) ++ parseOutput u := parseOutput_append_lineFeed _ _
      _ = parseOutput start ++ parseOutput u := by
          rw [parseOutput_line hline, parseOutput_line hstart, parse?_append_return hlast]
      _ = parseOutput start ++ parseOutput t :=
          congrArg (parseOutput start ++ ·) (ih [] List.not_mem_nil htail)
      _ = parseOutput (start ++ '\n' :: t) := (parseOutput_append_lineFeed _ _).symm

/-! ## Other lines -/

/-- The second list has the lines of the first one, and between them lines that are no
diagnostics. -/
inductive Padded : List Text → List Text → Prop
  | nil : Padded [] []
  | keep (line : Text) {ls ms : List Text} : Padded ls ms → Padded (line :: ls) (line :: ms)
  | insert {line : Text} {ls ms : List Text} : '\n' ∉ line → parse? line = none → Padded ls ms →
      Padded ls (line :: ms)

theorem Padded.filterMap_parse? {ls ms : List Text} (h : Padded ls ms) :
    ms.filterMap parse? = ls.filterMap parse? := by
  induction h with
  | nil => rfl
  | keep line _ ih => rw [List.filterMap_cons, List.filterMap_cons, ih]
  | insert _ hnone _ ih => rw [List.filterMap_cons, hnone, ih]

theorem Padded.lineFeed_not_mem {ls ms : List Text} (h : Padded ls ms)
    (hls : ∀ line ∈ ls, '\n' ∉ line) : ∀ line ∈ ms, '\n' ∉ line := by
  induction h with
  | nil => exact hls
  | keep line _ ih =>
    rw [List.forall_mem_cons] at hls ⊢
    exact ⟨hls.1, ih hls.2⟩
  | insert hline _ _ ih =>
    rw [List.forall_mem_cons]
    exact ⟨hline, ih hls⟩

theorem Padded.parseOutput_joinLines {output : Text} {lines : List Text}
    (h : Padded (output.splitOn '\n') lines) :
    parseOutput (Text.joinLines lines) = parseOutput output := by
  have hfeed : ∀ line ∈ lines, '\n' ∉ line :=
    h.lineFeed_not_mem fun line hline => Text.not_mem_of_mem_splitOn hline
  rw [Diagnostic.parseOutput_joinLines hfeed, h.filterMap_parse?, parseOutput]

/-! ## All together -/

/-- **An output can be processed in pieces.**  The diagnostics of two texts with a line feed between
them are those of the first one and those of the second one, and so are the findings where the tokens
come without an effect. An output in which no carriage return stands in front of a line feed may get
one in front of any of them, and any output may get more lines that are no diagnostics in front of,
between and behind its lines; neither changes the diagnostics or their analysis. -/
theorem parseOutput_in_pieces :
    (∀ a b : Text, parseOutput (a ++ '\n' :: b) = parseOutput a ++ parseOutput b ∧
      ∀ (tokensFor : Text → Id (List Token)) (options : Options),
        (Analysis.ofOutput tokensFor options (a ++ '\n' :: b)).run =
          (Analysis.ofOutput tokensFor options a).run ++
            (Analysis.ofOutput tokensFor options b).run) ∧
    (∀ output other : Text, ¬ "\r\n".toList <:+: output → Returned output other →
      Analysis.Interchangeable output other) ∧
    (∀ (output : Text) (lines : List Text), Padded (output.splitOn '\n') lines →
      Analysis.Interchangeable output (Text.joinLines lines)) := by
  refine ⟨fun a b => ⟨parseOutput_append_lineFeed a b, ?_⟩, ?_, ?_⟩
  · intro tokensFor options
    exact run_ofOutput_append_lineFeed tokensFor options a b
  · intro output other hreturn h
    apply Analysis.interchangeable_of_parseOutput
    exact h.parseOutput_append [] List.not_mem_nil hreturn
  · intro output lines h
    exact Analysis.interchangeable_of_parseOutput h.parseOutput_joinLines

theorem Returned.append_left (start : Text) {t u : Text} (h : Returned t u) :
    Returned (start ++ t) (start ++ u) := by
  induction start with
  | nil => exact h
  | cons c start ih => exact .keep c ih

/-- Two diagnostics may have another line end between them, and other lines around them. -/
theorem parseOutput_twoDiagnostics :
    let first : Text := "a.ts(1,1): error TS2304: Cannot find name 'x'."
    let second : Text := "b.ts(2,3): error TS2304: Cannot find name 'y'."
    let output := first ++ '\n' :: second
    parseOutput output = parseOutput first ++ parseOutput second ∧
    (parseOutput output).map (·.file) = ["a.ts".toList, "b.ts".toList] ∧
    Analysis.Interchangeable output (first ++ '\r' :: '\n' :: second) ∧
    Analysis.Interchangeable output (Text.joinLines
      [first, "  1 x".toList, [], second, "Found 2 errors in 2 files.".toList]) := by
  intro first second output
  obtain ⟨hpieces, hreturned, hpadded⟩ := parseOutput_in_pieces
  refine ⟨(hpieces first second).1, by decide +kernel, ?_, ?_⟩
  · have hreturn : ¬ "\r\n".toList <:+: output := by decide +kernel
    have hrest : Returned second second := by
      simpa using Returned.append_left second .nil
    exact hreturned output _ hreturn (.append_left first (.feed hrest))
  · have hlines : output.splitOn '\n' = [first, second] := by decide +kernel
    apply hpadded
    rw [hlines]
    exact .keep first (.insert (by decide) (by decide +kernel) (.insert (by decide)
      (by decide +kernel) (.keep second (.insert (by decide) (by decide +kernel) .nil))))

end Diagnostic

end DiagnosticHints
