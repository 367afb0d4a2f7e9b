import DiagnosticHints.Proofs.TokenPlaces

/-!
# Lines and columns by line feeds

The line of a token is one more than the number of line feeds in front of it, and its column counts
the units behind the last of them. Both are said of the units of the text alone, without its lines
and without the table of their starts; the token's own characters, of which some may be line feeds,
do not matter. So tokens that follow one another in the text have increasing places, and a place
belongs to one offset only.
-/

namespace DiagnosticHints

namespace Text

/-! ## Line feeds among the units -/

/-- The units of a text in front of an offset. -/
def unitsBefore (t : Text) (offset : Nat) : List Nat := (codeUnits t).take offset

/-- The index right behind the last line feed in front of an offset, or the first index where no
line feed stands in front of it. -/
structure BehindLastLineFeed (t : Text) (offset start : Nat) : Prop where
  start_le : start ≤ offset
  lineFeed : 0 < start → (codeUnits t)[start - 1]? = some 10
  last : ∀ i, start ≤ i → i < offset → (codeUnits t)[i]? ≠ some 10

theorem count_charUnits (c : Char) : (charUnits c).count 10 = if c = '\n' then 1 else 0 := by
  have hc : c.toNat = 10 ↔ c = '\n' := by
    rw [← Char.toNat_inj]
    rfl
  rw [charUnits]
  split
  · simp only [List.count_singleton, beq_iff_eq, hc]
  · next h =>
    have hne : c ≠ '\n' := by
      rintro rfl
      exact h (by decide)
    rw [if_neg hne, List.count_eq_zero, List.mem_pair]
    omega

/-- The line feeds of a text are those of its units. -/
theorem count_codeUnits (t : Text) : (codeUnits t).count 10 = t.count '\n' := by
  induction t with
  | nil => rfl
  | cons c t ih =>
    rw [codeUnits, List.flatMap_cons, List.count_append, count_charUnits, ← codeUnits, ih,
      List.count_cons, Nat.add_comm]
    simp only [beq_iff_eq]

theorem lineFeed_not_mem_codeUnits {t : Text} (h : '\n' ∉ t) : 10 ∉ codeUnits t := by
  rwa [← List.count_eq_zero, count_codeUnits, List.count_eq_zero]

/-! ## Line feeds among the lines -/

/-- Only the last character of a line is a line feed. -/
theorem lineFeed_not_mem_dropLast {t line : Text} (h : line ∈ lines t) : '\n' ∉ line.dropLast := by
  induction t generalizing line with
  | nil =>
    obtain rfl := List.mem_singleton.1 h
    exact List.not_mem_nil
  | cons c t ih =>
    obtain ⟨first, rest, hlines⟩ := List.exists_cons_of_ne_nil (lines_ne_nil t)
    rw [hlines] at ih
    by_cases hc : c = '\n'
    · subst hc
      rw [lines_lineFeed, hlines] at h
      rcases List.mem_cons.1 h with rfl | h
      · exact List.not_mem_nil
      · exact ih h
    · rw [lines_cons hc hlines] at h
      rcases List.mem_cons.1 h with rfl | h
      · cases first with
        | nil => exact List.not_mem_nil
        | cons d first =>
          rw [List.dropLast_cons_cons, List.mem_cons, not_or]
          exact ⟨Ne.symm hc, ih List.mem_cons_self⟩
      · exact ih (List.mem_cons_of_mem _ h)

theorem count_lineFeed_of_mem_dropLast {t line : Text} (h : line ∈ (lines t).dropLast) :
    line.count '\n' = 1 := by
  have hlast := wholeLines_lines t line h
  have hfirst := lineFeed_not_mem_dropLast (List.mem_of_mem_dropLast h)
  rw [← List.dropLast_append_getLast? _ hlast, List.count_append,
    List.count_eq_zero.2 hfirst]
  rfl

/-- As many line feeds stand in front of a line as there are lines. -/
theorem count_lineFeed_take {t : Text} {i : Nat} (h : i < (lines t).length) :
    ((lines t).take i).flatten.count '\n' = i := by
  have hone : ∀ line ∈ (lines t).take i, line.count '\n' = 1 := fun line hline =>
    count_lineFeed_of_mem_dropLast (mem_dropLast_of_mem_take hline h)
  rw [List.count_flatten, List.map_congr_left hone, List.map_const', List.length_take]
  simp only [List.sum_replicate_nat, Nat.mul_one]
  omega

/-- Inside of a line, in front of its last character, there is no line feed. -/
theorem lineFeed_not_mem_take {line : Text} (h : '\n' ∉ line.dropLast) {k : Nat}
    (hk : k < units line) : 10 ∉ (codeUnits line).take k := by
  rcases List.eq_nil_or_concat line with rfl | ⟨body, c, rfl⟩
  · exact absurd hk (Nat.not_lt_zero k)
  · rw [List.concat_eq_append] at h hk ⊢
    rw [List.dropLast_concat] at h
    by_cases hc : c = '\n'
    · subst hc
      have hle : k ≤ (codeUnits body).length := by
        rw [units_append] at hk
        exact Nat.le_of_lt_succ hk
      rw [codeUnits_append, List.take_append_of_le_length hle]
      exact fun hmem => lineFeed_not_mem_codeUnits h (List.mem_of_mem_take hmem)
    · have hline : '\n' ∉ body ++ [c] := by
        rw [List.mem_append, List.mem_singleton, not_or]
        exact ⟨h, Ne.symm hc⟩
      exact fun hmem => lineFeed_not_mem_codeUnits hline (List.mem_of_mem_take hmem)

/-! ## The place of an offset -/

theorem EndsLine.getLast?_codeUnits {t : Text} (h : EndsLine t) (hne : t ≠ []) :
    (codeUnits t).getLast? = some 10 := by
  have hlast : t.getLast? = some '\n' := by
    rw [List.getLast?_eq_some_getLast hne, h _ (List.getLast?_eq_some_getLast hne)]
  rw [← List.dropLast_append_getLast? _ hlast, codeUnits_append]
  exact List.getLast?_concat

/-- A text around the line that an offset lies on. -/
theorem OnLine.exists_around {t : Text} {i offset : Nat} (h : OnLine t i offset) :
    ∃ before line behind : Text, before ++ (line ++ behind) = t ∧
      lineStart t i = units before ∧ offset < units before + units line ∧
      before.count '\n' = i ∧ EndsLine before ∧ '\n' ∉ line.dropLast := by
  have hlt := h.index_lt
  have hdrop := List.drop_eq_getElem_cons hlt
  refine ⟨((lines t).take i).flatten, (lines t)[i], ((lines t).drop (i + 1)).flatten, ?_, rfl, ?_,
    count_lineFeed_take hlt, ?_, lineFeed_not_mem_dropLast (List.getElem_mem hlt)⟩
  · rw [← List.flatten_cons, ← hdrop, ← List.flatten_append, List.take_append_drop, flatten_lines]
  · have hnext := h.lt_next
    rwa [lineStart, List.take_succ_eq_append_getElem hlt, List.flatten_append,
      List.flatten_singleton, units_append] at hnext
  · have hwhole := wholeLines_lines t
    rw [← List.take_append_drop i (lines t)] at hwhole
    refine hwhole.endsLine_flatten ?_
    rw [hdrop]
    exact List.cons_ne_nil _ _

/-- An offset on the line with an index has as many line feeds in front of it as the index says,
and the line starts behind the last of them. -/
theorem OnLine.behindLastLineFeed {t : Text} {i offset : Nat} (h : OnLine t i offset) :
    (unitsBefore t offset).count 10 = i ∧ BehindLastLineFeed t offset (lineStart t i) := by
  have hstart := h.start_le
  obtain ⟨before, line, behind, happend, heq, hlt, hcount, hends, hline⟩ := h.exists_around
  rw [heq] at hstart ⊢
  have hunits : codeUnits t = codeUnits before ++ (codeUnits line ++ codeUnits behind) := by
    rw [← happend]
    rw [codeUnits_append, codeUnits_append]
  have hinside := lineFeed_not_mem_take hline (k := offset - units before) (by omega)
  have hlength : (codeUnits before).length = units before := rfl
  refine ⟨?_, hstart, ?_, ?_⟩
  · have hbefore : unitsBefore t offset =
        codeUnits before ++ (codeUnits line).take (offset - units before) := by
      rw [unitsBefore, hunits, List.take_append, List.take_of_length_le hstart, hlength,
        List.take_append_of_le_length (by show _ ≤ units line; omega)]
    rw [hbefore, List.count_append, count_codeUnits, hcount, List.count_eq_zero.2 hinside,
      Nat.add_zero]
  · intro hpos
    have hne : before ≠ [] := by
      rintro rfl
      exact Nat.lt_irrefl 0 hpos
    rw [hunits, ← hlength, List.getElem?_append_left (Nat.sub_lt hpos Nat.one_pos),
      ← List.getLast?_eq_getElem?, hends.getLast?_codeUnits hne]
  · intro j hj hjo hfeed
    rw [hunits, List.getElem?_append_right hj, hlength,
      List.getElem?_append_left (by show _ < units line; omega)] at hfeed
    refine hinside (List.mem_of_getElem? (i := j - units before) ?_)
    rw [List.getElem?_take_of_lt (by omega), hfeed]

/-- A line feed between two offsets counts for the second one only. -/
theorem count_unitsBefore_lt {t : Text} {offset offset' i : Nat} (hi : offset ≤ i)
    (hi' : i < offset') (hfeed : (codeUnits t)[i]? = some 10) :
    (unitsBefore t offset).count 10 < (unitsBefore t offset').count 10 := by
  have hfirst := ((List.take_prefix_take_left (l := codeUnits t) hi).sublist).count_le 10
  have hsecond := ((List.take_prefix_take_left (l := codeUnits t) hi').sublist).count_le 10
  rw [List.take_add_one, hfeed, List.count_append] at hsecond
  exact Nat.lt_of_le_of_lt hfirst hsecond

/-- Of two offsets, the second one is on a later line, or behind the first one on its line. -/
theorem BehindLastLineFeed.lt {t : Text} {offset offset' start start' : Nat}
    (h : BehindLastLineFeed t offset start) (h' : BehindLastLineFeed t offset' start')
    (hlt : offset < offset') :
    (unitsBefore t offset).count 10 < (unitsBefore t offset').count 10 ∨
      (unitsBefore t offset).count 10 = (unitsBefore t offset').count 10 ∧
        offset - start < offset' - start' := by
  have hle := ((List.take_prefix_take_left (l := codeUnits t) hlt.le).sublist).count_le 10
  refine (Nat.lt_or_eq_of_le hle).imp_right fun hcount => ⟨hcount, ?_⟩
  have hstart := h.start_le
  have hstart' := h'.start_le
  -- a line feed in front of one start only would stand behind the other one
  have heq : start = start' := by
    rcases Nat.lt_trichotomy start start' with hless | heq | hless
    · have hfeed := h'.lineFeed (by omega)
      by_cases hbetween : start' - 1 < offset
      · exact absurd hfeed (h.last _ (by omega) hbetween)
      · exact absurd hcount (count_unitsBefore_lt (by omega) (by omega) hfeed).ne
    · exact heq
    · exact absurd (h.lineFeed (by omega)) (h'.last _ (by omega) (by omega))
  omega

end Text

/-! ## Tokens -/

/-- A token stands in front of another one: on an earlier line, or on the same line in an earlier
column. -/
def Token.Precedes (a b : Token) : Prop :=
  a.line < b.line ∨ a.line = b.line ∧ a.column < b.column

namespace Source

variable {text : Text} {x y : Lexeme} {a b token : Token} {i : Nat}

/-- A token is a lexeme with the line and the column of its offset, and with the text from there
on. -/
structure ExactlyAt (text : Text) (x : Lexeme) (token : Token) : Prop where
  raw : token.raw = x.raw
  /-- The text of the token is what stands there, over as many lines as it takes. -/
  stands : (Text.codeUnits text).extract x.offset x.stop = Text.codeUnits token.raw
  /-- Lines count the line feeds in front, from 1. -/
  line : token.line = (Text.unitsBefore text x.offset).count 10 + 1
  /-- Columns count from 0 behind the last of these line feeds. -/
  column : ∃ start, Text.BehindLastLineFeed text x.offset start ∧
    token.column = (x.offset : Int) - start

theorem Places.exactlyAt (h : Places text i x token)
    (hstands : (Text.codeUnits text).extract x.offset x.stop = Text.codeUnits x.raw) :
    ExactlyAt text x token := by
  obtain ⟨hline, rfl⟩ := h
  obtain ⟨hcount, hbehind⟩ := hline.behindLastLineFeed
  exact ⟨rfl, hstands, by rw [hcount], _, hbehind, rfl⟩

/-- Tokens stand in the order of their offsets. -/
theorem ExactlyAt.precedes (ha : ExactlyAt text x a) (hb : ExactlyAt text y b)
    (hlt : x.offset < y.offset) : a.Precedes b := by
  obtain ⟨start, hstart, hcolumn⟩ := ha.column
  obtain ⟨start', hstart', hcolumn'⟩ := hb.column
  have hle := hstart.start_le
  rw [Token.Precedes, ha.line, hb.line, hcolumn, hcolumn']
  have := hstart.lt hstart' hlt
  omega

/-- A line and a column belong to one offset. -/
theorem ExactlyAt.offset_eq (ha : ExactlyAt text x a) (hb : ExactlyAt text y b)
    (hline : a.line = b.line) (hcolumn : a.column = b.column) : x.offset = y.offset := by
  have hnot : ∀ {c d : Token}, c.Precedes d → ¬ (c.line = d.line ∧ c.column = d.column) := by
    intro c d h hsame
    rw [Token.Precedes] at h
    omega
  rcases Nat.lt_trichotomy x.offset y.offset with hlt | heq | hlt
  · exact absurd ⟨hline, hcolumn⟩ (hnot (ha.precedes hb hlt))
  · exact heq
  · exact absurd ⟨hline.symm, hcolumn.symm⟩ (hnot (hb.precedes ha hlt))

/-- **Places are exact.**  Whatever whole number of lines is lexed at a time, the tokens of a source
are the lexemes of its text without a mark in front, one by one and in order, each with the line and
the column of its offset. So their places increase, and a place is that of one offset only. A number
beyond the lines of the source, as infinity is, lexes all of it at once. -/
theorem exactlyAt_tokensBy (source : Text) (chunkLines : Int) :
    List.Forall₂ (ExactlyAt (Text.dropMark source)) (Lexicon.lexemes (Text.dropMark source))
      (tokensBy (.ofInt chunkLines) source) ∧
    (tokensBy (.ofInt chunkLines) source).Pairwise Token.Precedes ∧
    ∀ x y a b, ExactlyAt (Text.dropMark source) x a → ExactlyAt (Text.dropMark source) y b →
      a.line = b.line → a.column = b.column → x.offset = y.offset := by
  have hcut := Lexicon.segmentation_lexemesFrom (List.nil_append (Text.dropMark source))
  have hexact : ∀ x ∈ Lexicon.lexemes (Text.dropMark source), ExactlyAt (Text.dropMark source) x
      (tokenOf (lineOffsets (Text.dropMark source)) x) := fun x hx => by
    obtain ⟨_, hplaces⟩ := exists_places_of_segmentation hcut hx
    exact hplaces.exactlyAt (hcut.raw_eq x hx)
  rw [tokensBy, groupedLexemes_eq_lexemes]
  refine ⟨?_, ?_, fun x y a b => ExactlyAt.offset_eq⟩
  · rw [List.forall₂_map_right_iff, List.forall₂_same]
    exact hexact
  · rw [List.pairwise_map]
    exact hcut.ordered.imp_of_mem fun hx hy hxy =>
      (hexact _ hx).precedes (hexact _ hy) hxy.1

end Source

end DiagnosticHints
