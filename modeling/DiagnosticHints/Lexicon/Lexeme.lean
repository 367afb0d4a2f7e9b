import DiagnosticHints.Lexicon.Gap
import DiagnosticHints.Lexicon.Scan
import DiagnosticHints.Text.Units

/-!
# The lexemes of a text

A TypeScript source is cut into gaps and lexemes from left to right, without a remainder: whatever
is no literal, number, identifier or operator is a lexeme of one character. Offsets count UTF-16
units from the start of the text.
-/

namespace DiagnosticHints

/-- A piece of source text and the offset where it starts. -/
structure Lexeme where
  raw : Text
  offset : Nat
  deriving DecidableEq, Repr

namespace Lexicon

/-- The first gap of a text, the lexeme behind it, and the text behind both. -/
structure Cut where
  gap : Text
  raw : Text
  rest : Text

/-- The first cut of a text, if it holds a lexeme at all. -/
def cut? (t : Text) : Option Cut :=
  match gap t with
  | (_, []) => none
  | (space, c :: r) =>
    let found := scan c r
    some ⟨space, found.1, found.2⟩

theorem append_of_cut? {t : Text} {x : Cut} (h : cut? t = some x) :
    x.gap ++ x.raw ++ x.rest = t := by
  have hg := gap_append t
  unfold cut? at h
  split at h
  · simp at h
  · next space c r hgap =>
    simp only [Option.some.injEq] at h
    subst h
    rw [hgap] at hg
    simpa [scan_append] using hg

theorem raw_ne_nil_of_cut? {t : Text} {x : Cut} (h : cut? t = some x) : x.raw ≠ [] := by
  unfold cut? at h
  split at h
  · simp at h
  · simp only [Option.some.injEq] at h
    subst h
    exact scan_ne_nil _ _

theorem length_lt_of_cut? {t : Text} {x : Cut} (h : cut? t = some x) :
    x.rest.length < t.length := by
  have := List.length_pos_iff.2 (raw_ne_nil_of_cut? h)
  rw [← append_of_cut? h]
  simp only [List.length_append]
  omega

/-- The lexemes of a text that starts at `offset`. -/
def lexemesFrom (offset : Nat) (t : Text) : List Lexeme :=
  match h : cut? t with
  | none => []
  | some x =>
    have : x.rest.length < t.length := length_lt_of_cut? h
    let start := offset + Text.units x.gap
    ⟨x.raw, start⟩ :: lexemesFrom (start + Text.units x.raw) x.rest
termination_by t.length
decreasing_by assumption

/-- The lexemes of a text, in order. A cut into lexemes cannot fail: a character that starts no
literal, number, identifier or longer operator is a lexeme by itself, so there is a lexeme at every
place where no gap is, and the cut goes on to the end of the text. Hence the result is a list, and
not a list or a failure. -/
def lexemes (t : Text) : List Lexeme := lexemesFrom 0 t

theorem lexemesFrom_of_cut?_none {offset : Nat} {t : Text} (h : cut? t = none) :
    lexemesFrom offset t = [] := by
  rw [lexemesFrom]
  split
  · rfl
  · next x hx => rw [h] at hx; cases hx

theorem lexemesFrom_of_cut?_some {offset : Nat} {t : Text} {x : Cut} (h : cut? t = some x) :
    lexemesFrom offset t =
      ⟨x.raw, offset + Text.units x.gap⟩ ::
        lexemesFrom (offset + Text.units x.gap + Text.units x.raw) x.rest := by
  rw [lexemesFrom]
  split
  · next hx => rw [h] at hx; cases hx
  · next y hy => rw [h] at hy; cases hy; rfl

theorem lexemesFrom_nil (offset : Nat) : lexemesFrom offset [] = [] :=
  lexemesFrom_of_cut?_none (by rw [cut?, gap])

end Lexicon

end DiagnosticHints
