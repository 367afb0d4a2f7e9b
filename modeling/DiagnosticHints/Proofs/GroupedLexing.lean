import DiagnosticHints.Proofs.ClosedText
import DiagnosticHints.Source.Token

/-!
# Lexing by groups of lines

A text that is cut into lexemes a group of lines at a time gets the lexemes, and so the tokens, of
one cut through the whole text, for every number of lines that is asked for. A group is closed
before it is accepted, or it is the last one, so what it leaves to the groups behind it has the
same lexemes alone; an open group is given up and enlarged.
-/

namespace DiagnosticHints

namespace Text

/-! ## Whole lines -/

/-- Every line but the last one ends with a line feed. -/
def WholeLines (lines : List Text) : Prop :=
  ∀ line ∈ lines.dropLast, line.getLast? = some '\n'

theorem wholeLines_consLine {c : Char} {lines : List Text} (h : WholeLines lines) :
    WholeLines (consLine c lines) := by
  cases lines with
  | nil =>
    rw [consLine]
    split
    · next hc => simp [WholeLines, hc]
    · simp [WholeLines]
  | cons line rest =>
    rw [consLine]
    split
    · next hc =>
      intro l hl
      rw [List.dropLast_cons_cons, List.mem_cons] at hl
      rcases hl with rfl | hl
      · rw [hc]
        rfl
      · exact h l hl
    · cases rest with
      | nil => simp [WholeLines]
      | cons line' rest =>
        intro l hl
        rw [List.dropLast_cons_cons, List.mem_cons] at hl
        rcases hl with rfl | hl
        · rw [List.getLast?_cons, h line (by simp), Option.getD_some]
        · exact h l (by rw [List.dropLast_cons_cons]; exact List.mem_cons_of_mem _ hl)

theorem wholeLines_lines (t : Text) : WholeLines (lines t) := by
  induction t with
  | nil => simp [lines, WholeLines]
  | cons c t ih => exact wholeLines_consLine ih

theorem WholeLines.of_append {a b : List Text} (h : WholeLines (a ++ b)) : WholeLines b := by
  rcases eq_or_ne b [] with rfl | hb
  · simp [WholeLines]
  · intro line hline
    refine h line ?_
    rw [List.dropLast_append_of_ne_nil hb]
    exact List.mem_append_right a hline

theorem mem_dropLast_of_mem_take {lines : List Text} {line : Text} {i : Nat}
    (h : line ∈ lines.take i) (hi : i < lines.length) : line ∈ lines.dropLast := by
  have htake : lines.take i <+: lines.dropLast := by
    rw [List.dropLast_eq_take]
    exact List.take_prefix_take_left (by omega)
  exact htake.subset h

/-- Lines that do not reach the last one end with a line feed. -/
theorem WholeLines.endsLine_flatten {a b : List Text} (h : WholeLines (a ++ b)) (hb : b ≠ []) :
    EndsLine a.flatten := by
  have hall : ∀ line ∈ a, EndsLine line := fun line hline c hc => by
    have hlast := h line (by
      rw [List.dropLast_append_of_ne_nil hb]
      exact List.mem_append_left _ hline)
    rw [hlast] at hc
    exact (Option.some.inj hc).symm
  clear h
  induction a with
  | nil => exact fun c hc => by cases hc
  | cons line a ih =>
    rw [List.flatten_cons]
    exact (hall line List.mem_cons_self).append (ih fun l hl => hall l (List.mem_cons_of_mem _ hl))

end Text

namespace Source

/-! ## Closed groups -/

/-- Lexemes of a text that starts elsewhere are shifted by the difference. -/
theorem map_shift_lexemesFrom (offset shift : Nat) (t : Text) :
    ((Lexicon.lexemesFrom offset t).map fun x => { x with offset := x.offset + shift }) =
      Lexicon.lexemesFrom (offset + shift) t := by
  induction t using Lexicon.cut_induction generalizing offset with
  | nil t h => rw [Lexicon.lexemesFrom_of_cut?_none h, Lexicon.lexemesFrom_of_cut?_none h,
      List.map_nil]
  | cons t x h ih =>
    rw [Lexicon.lexemesFrom_of_cut?_some h, Lexicon.lexemesFrom_of_cut?_some h, List.map_cons, ih]
    simp only [Nat.add_right_comm _ _ shift]

/-- Behind a group that leaves nothing open the text is cut as it would be alone. -/
theorem lexemes_append_of_closed {t : Text} (ht : Text.EndsLine t)
    (hclosed : ¬ (⟨t, Lexicon.lexemes t⟩ : Group).isOpen = true) (s : Text) :
    Lexicon.lexemes (t ++ s) =
      Lexicon.lexemes t ++ Lexicon.lexemesFrom (Text.units t) s := by
  have happend := Lexicon.lexemesFrom_append 0 ht (List.isSuffixOf_iff_suffix.2 ·)
    (Bool.eq_false_iff.2 hclosed) s
  rwa [Nat.zero_add] at happend

/-- **A closed group can be cut off.**  Whatever follows a group that ends with a line feed and is
judged to leave nothing open, the lexemes are those of the group, and behind them those of the rest
alone, moved by the length of the group. -/
theorem lexemes_append_of_isOpen_eq_false {t : Text} (hline : t.getLast? = some '\n')
    (hclosed : (⟨t, Lexicon.lexemes t⟩ : Group).isOpen = false) (s : Text) :
    Lexicon.lexemes (t ++ s) = Lexicon.lexemes t ++
      (Lexicon.lexemes s).map fun x => { x with offset := x.offset + Text.units t } := by
  have ht : Text.EndsLine t := fun c hc => by
    rw [Option.mem_def, hline] at hc
    exact (Option.some.inj hc).symm
  have hshift := map_shift_lexemesFrom 0 (Text.units t) s
  rw [Nat.zero_add] at hshift
  rw [lexemes_append_of_closed ht (Bool.eq_false_iff.1 hclosed), ← hshift, Lexicon.lexemes,
    Lexicon.lexemes]

/-- A lone quote, and the openings of a template and of a comment inside a line comment. -/
def loneQuote : Text := "\x22a // \x60 /*\n"

/-- What would close all of them. -/
def closings : Text := "*/ \x60 b\x22"

theorem lexemes_append_of_isOpen_eq_false_loneQuote :
    (loneQuote.getLast? = some '\n' ∧
      (⟨loneQuote, Lexicon.lexemes loneQuote⟩ : Group).isOpen = false) ∧
    Lexicon.lexemes (loneQuote ++ closings) = Lexicon.lexemes loneQuote ++
      (Lexicon.lexemes closings).map fun x =>
        { x with offset := x.offset + Text.units loneQuote } :=
  have hline : loneQuote.getLast? = some '\n' := by decide
  have hclosed : (⟨loneQuote, Lexicon.lexemes loneQuote⟩ : Group).isOpen = false := by
    decide +kernel
  ⟨⟨hline, hclosed⟩, lexemes_append_of_isOpen_eq_false hline hclosed closings⟩

/-! ## The loop over the groups -/

/-- The lexemes of an accepted group and those of the lines behind it are the lexemes of both. -/
theorem lexemes_of_accepted {size : GroupSize} {lines : List Text} (h : Text.WholeLines lines)
    (haccept : ¬ (size.lines < lines.length ∧
      (Group.ofLines (lines.take size.lines)).isOpen = true)) :
    Lexicon.lexemes lines.flatten = Lexicon.lexemes (lines.take size.lines).flatten ++
      Lexicon.lexemesFrom (Text.units (lines.take size.lines).flatten)
        (lines.drop size.lines).flatten := by
  by_cases hlast : size.lines < lines.length
  · have hopen : ¬ (Group.ofLines (lines.take size.lines)).isOpen = true := fun ho =>
      haccept ⟨hlast, ho⟩
    have hdrop : lines.drop size.lines ≠ [] := by
      rw [Ne, List.drop_eq_nil_iff]
      omega
    rw [← List.take_append_drop size.lines lines] at h
    have hclosed := lexemes_append_of_closed (h.endsLine_flatten hdrop) hopen
      (lines.drop size.lines).flatten
    rwa [← List.flatten_append, List.take_append_drop] at hclosed
  · -- the group takes all lines that are left
    rw [List.take_of_length_le (by omega), List.drop_eq_nil_of_le (by omega), List.flatten_nil,
      Lexicon.lexemesFrom_nil, List.append_nil]

/-- Whatever sizes the groups take, their lexemes are those of all lines at once. -/
theorem placeGroups_groupsFrom (base size : GroupSize) {lines : List Text}
    (h : Text.WholeLines lines) (offset : Nat) :
    placeGroups offset (groupsFrom base size lines) =
      Lexicon.lexemesFrom offset lines.flatten := by
  induction size, lines using groupsFrom.induct base generalizing offset with
  | case1 size lines hnil =>
    obtain rfl := List.isEmpty_iff.1 hnil
    rw [groupsFrom, if_pos hnil, List.flatten_nil, Lexicon.lexemesFrom_nil]
    rfl
  | case2 size lines hne group hretry ih =>
    rw [groupsFrom, if_neg hne, if_pos hretry, ih h]
  | case3 size lines hne group haccept ih =>
    have hrest : Text.WholeLines (lines.drop size.lines) := by
      rw [← List.take_append_drop size.lines lines] at h
      exact h.of_append
    have hshift := map_shift_lexemesFrom 0 offset lines.flatten
    rw [Nat.zero_add] at hshift
    rw [groupsFrom, if_neg hne, if_neg haccept, placeGroups, ih hrest, ← hshift,
      ← Lexicon.lexemes, lexemes_of_accepted h haccept, List.map_append, map_shift_lexemesFrom,
      Nat.add_comm offset]
    rfl

theorem groupedLexemes_eq_lexemes (size : GroupSize) (t : Text) :
    groupedLexemes size t = Lexicon.lexemes t := by
  rw [groupedLexemes, groups, placeGroups_groupsFrom _ _ (Text.wholeLines_lines t),
    Text.flatten_lines, Lexicon.lexemes]

/-! ## Tokens -/

/-- The tokens of a source file, found in one cut through the whole text. -/
def tokensAtOnce (source : Text) : List Token :=
  let text := Text.dropMark source
  (Lexicon.lexemes text).map (tokenOf (lineOffsets text))

/-- **Grouping is invisible.**  Whatever number of lines is asked for, also zero or a negative
one, the tokens are those of one cut through the whole text; so no two numbers give different
tokens, and neither does asking for none. -/
theorem tokensBy_eq_tokensAtOnce (source : Text) (chunkLines : Int) :
    tokensBy (.ofInt chunkLines) source = tokensAtOnce source ∧
      (∀ other : Int, tokensBy (.ofInt other) source = tokensBy (.ofInt chunkLines) source) ∧
      tokens source = tokensAtOnce source := by
  have hall : ∀ size, tokensBy size source = tokensAtOnce source := fun size => by
    simp only [tokensBy, groupedLexemes_eq_lexemes, tokensAtOnce]
  refine ⟨hall _, fun other => ?_, hall _⟩
  rw [hall, hall]

end Source

end DiagnosticHints
