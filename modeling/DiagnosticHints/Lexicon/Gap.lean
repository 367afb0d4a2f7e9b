import DiagnosticHints.Text.Basic

/-!
# Gaps between lexemes

Between two lexemes stand control characters, spaces and comments. A line comment ends before its
line feed, so that the line feed still belongs to the gap; a block comment counts only when it is
closed. The main statement is that a gap and the text behind it make up the whole text.
-/

namespace DiagnosticHints

namespace Lexicon

/-- The characters that separate lexemes: U+0000 to U+0020. -/
def isSpace (c : Char) : Bool := c.toNat ≤ 0x20

/-- The comment at the head of a text, and the text behind it. -/
def comment? : Text → Option (Text × Text)
  | '/' :: '/' :: t =>
    some ('/' :: '/' :: t.takeWhile (· != '\n'), t.dropWhile (· != '\n'))
  | '/' :: '*' :: t =>
    (Text.splitFirst? ['*', '/'] t).map fun (body, rest) =>
      ('/' :: '*' :: (body ++ ['*', '/']), rest)
  | _ => none

theorem append_of_comment? {t comment rest : Text} (h : comment? t = some (comment, rest)) :
    comment ++ rest = t := by
  unfold comment? at h
  split at h
  · simp only [Option.some.injEq, Prod.mk.injEq] at h
    obtain ⟨rfl, rfl⟩ := h
    simp
  · next t =>
    simp only [Option.map_eq_some_iff, Prod.mk.injEq] at h
    obtain ⟨⟨body, after⟩, hs, rfl, rfl⟩ := h
    rw [← Text.append_of_splitFirst? hs]
    simp
  · simp at h

theorem ne_nil_of_comment? {t comment rest : Text} (h : comment? t = some (comment, rest)) :
    comment ≠ [] := by
  unfold comment? at h
  split at h
  · simp only [Option.some.injEq, Prod.mk.injEq] at h
    simp [← h.1]
  · simp only [Option.map_eq_some_iff, Prod.mk.injEq] at h
    obtain ⟨_, _, rfl, _⟩ := h
    simp
  · simp at h

theorem length_lt_of_comment? {t comment rest : Text} (h : comment? t = some (comment, rest)) :
    rest.length < t.length := by
  have := List.length_pos_iff.2 (ne_nil_of_comment? h)
  rw [← append_of_comment? h, List.length_append]
  omega

/-- The gap at the head of a text, and the text behind it. -/
def gap (t : Text) : Text × Text :=
  match t with
  | [] => ([], [])
  | c :: r =>
    if isSpace c then
      let tail := gap r
      (c :: tail.1, tail.2)
    else
      match h : comment? (c :: r) with
      | some (comment, rest) =>
        have : rest.length < (c :: r).length := length_lt_of_comment? h
        let tail := gap rest
        (comment ++ tail.1, tail.2)
      | none => ([], c :: r)
termination_by t.length
decreasing_by
  · exact Nat.lt_succ_self r.length
  · assumption

theorem gap_append (t : Text) : (gap t).1 ++ (gap t).2 = t := by
  fun_induction gap t with
  | case1 => rfl
  | case2 c r hc tail ih => simp [tail, ih]
  | case3 c r hc comment rest h _ tail ih => simp [tail, ih, append_of_comment? h]
  | case4 => rfl

end Lexicon

end DiagnosticHints
