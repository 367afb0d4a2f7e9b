import Mathlib.Data.Nat.Log
import Mathlib.Order.Bounds.Basic
import DiagnosticHints.Proofs.ExactPlaces

/-!
# The search for a line

The search halves the interval of its candidates until one is left: with the midpoint rounded up
either half is smaller than the whole, so a table of `n` starts takes at most `⌈log₂ n⌉` steps, none
of which reads outside the table. In a table whose starts increase from 0 it finds the greatest
index whose start is at most the offset, and in the table of a text this index is the number of line
feeds in front of the offset.
-/

namespace DiagnosticHints

namespace Text

/-- A text has one line more than line feeds. -/
theorem length_lines (t : Text) : (lines t).length = t.count '\n' + 1 := by
  induction t with
  | nil => rfl
  | cons c t ih =>
    by_cases hc : c = '\n'
    · subst hc
      rw [lines_lineFeed, List.length_cons, ih, List.count_cons_self]
    · obtain ⟨line, rest, hlines⟩ := List.exists_cons_of_ne_nil (lines_ne_nil t)
      rw [lines_cons hc hlines, List.length_cons, List.count_cons_of_ne hc, ← ih, hlines,
        List.length_cons]

end Text

namespace Source

variable {starts : Array Nat} {offset low high steps found : Nat}

theorem getD_of_getElem? {index start : Nat} (h : starts[index]? = some start) :
    starts.getD index 0 = start := by
  rw [Array.getD_eq_getD_getElem?, h, Option.getD_some]

/-! ## Steps of the search -/

/-- The steps of the search in an interval, up to the one index that is left: each reads the start
in the middle and goes on in the half that this start leaves. -/
inductive Halvings (starts : Array Nat) (offset : Nat) : Nat → Nat → Nat → Nat → Prop
  | met {index : Nat} : Halvings starts offset index index 0 index
  | upper {low high steps found start : Nat} : low < high →
      starts[(low + high + 1) / 2]? = some start → start ≤ offset →
      Halvings starts offset ((low + high + 1) / 2) high steps found →
      Halvings starts offset low high (steps + 1) found
  | lower {low high steps found start : Nat} : low < high →
      starts[(low + high + 1) / 2]? = some start → offset < start →
      Halvings starts offset low ((low + high + 1) / 2 - 1) steps found →
      Halvings starts offset low high (steps + 1) found

/-- Steps that end do so where the search does. -/
theorem Halvings.eq_lineSearch (h : Halvings starts offset low high steps found) :
    found = lineSearch starts offset low high := by
  induction h with
  | met => rw [lineSearch, if_neg (Nat.lt_irrefl _)]
  | upper hlt hread hstart _ ih =>
    rw [lineSearch, if_pos hlt]
    simp only [getD_of_getElem? hread, if_pos hstart]
    exact ih
  | lower hlt hread hstart _ ih =>
    rw [lineSearch, if_pos hlt]
    simp only [getD_of_getElem? hread, if_neg (not_le.2 hstart)]
    exact ih

/-- One step more for twice as many candidates. -/
theorem clog_half_add_one (candidates half : Nat) (h : 2 ≤ candidates)
    (hhalf : half ≤ (candidates + 1) / 2) :
    Nat.clog 2 half + 1 ≤ Nat.clog 2 candidates := by
  rw [Nat.clog_of_two_le (by decide) h]
  exact Nat.succ_le_succ (Nat.clog_mono_right 2 hhalf)

/-- The search ends, after a number of steps that is logarithmic in the candidates. -/
theorem exists_halvings (offset : Nat) (hle : low ≤ high) (hsize : high < starts.size) :
    ∃ steps ≤ Nat.clog 2 (high - low + 1),
      Halvings starts offset low high steps (lineSearch starts offset low high) := by
  fun_induction lineSearch starts offset low high with
  | case1 low high hlt middle hstart ih =>
    -- the upper half keeps its middle, so it is the larger one
    have hread := Array.getElem?_eq_getElem (show middle < starts.size by omega)
    obtain ⟨steps, hsteps, h⟩ := ih (by omega) hsize
    refine ⟨steps + 1, ?_, .upper hlt hread ?_ h⟩
    · have hhalf := clog_half_add_one (high - low + 1) (high - middle + 1) (by omega) (by omega)
      omega
    · rwa [getD_of_getElem? hread] at hstart
  | case2 low high hlt middle hstart ih =>
    have hread := Array.getElem?_eq_getElem (show middle < starts.size by omega)
    obtain ⟨steps, hsteps, h⟩ := ih (by omega) (by omega)
    refine ⟨steps + 1, ?_, .lower hlt hread ?_ h⟩
    · have hhalf := clog_half_add_one (high - low + 1) (middle - 1 - low + 1) (by omega) (by omega)
      omega
    · rw [getD_of_getElem? hread] at hstart
      exact not_le.1 hstart
  | case3 low high hlt =>
    obtain rfl : low = high := by omega
    exact ⟨0, Nat.zero_le _, .met⟩

/-! ## Tables of line starts -/

/-- A table of line starts: the first line starts at 0, and each other one behind the line in front
of it. -/
structure IsLineTable (starts : Array Nat) : Prop where
  first : starts[0]? = some 0
  increasing : starts.toList.Pairwise (· < ·)

namespace IsLineTable

theorem size_pos (h : IsLineTable starts) : 0 < starts.size := by
  obtain ⟨hsize, -⟩ := Array.getElem?_eq_some_iff.1 h.first
  exact hsize

theorem getElem_lt (h : IsLineTable starts) {i j : Nat} (hij : i < j) (hj : j < starts.size) :
    starts[i] < starts[j] :=
  List.pairwise_iff_getElem.1 h.increasing i j (hij.trans hj) hj hij

/-- The search finds the last line that starts at the offset or in front of it. -/
theorem isGreatest_lineIndex (h : IsLineTable starts) (offset : Nat) :
    IsGreatest {index | ∃ start ∈ starts[index]?, start ≤ offset} (lineIndex starts offset) := by
  have hpos := h.size_pos
  have hfirst : starts.getD 0 0 ≤ offset := by
    rw [getD_of_getElem? h.first]
    exact Nat.zero_le offset
  obtain ⟨hhigh, hfound, hnext⟩ := lineSearch_spec (Nat.zero_le (starts.size - 1)) hfirst
  rw [← lineIndex] at hhigh hfound hnext
  have hlt : lineIndex starts offset < starts.size := by omega
  constructor
  · have hread := Array.getElem?_eq_getElem hlt
    rw [getD_of_getElem? hread] at hfound
    exact ⟨_, hread, hfound⟩
  · rintro index ⟨start, hread, hstart⟩
    obtain ⟨hindex, rfl⟩ := Array.getElem?_eq_some_iff.1 hread
    by_contra hbehind
    -- the start behind the one that is found is behind the offset, and so are all later ones
    have hsucc : lineIndex starts offset + 1 < starts.size := by omega
    have hoffset := hnext (by omega)
    rw [getD_of_getElem? (Array.getElem?_eq_getElem hsucc)] at hoffset
    rcases Nat.eq_or_lt_of_le (show lineIndex starts offset + 1 ≤ index by omega) with heq | hless
    · subst heq
      omega
    · have := h.getElem_lt hless hindex
      omega

end IsLineTable

theorem pairwise_lineOffsetsFrom (offset : Nat) (t : Text) :
    (offset :: lineOffsetsFrom offset t).Pairwise (· < ·) := by
  induction t generalizing offset with
  | nil => exact List.pairwise_singleton _ _
  | cons c t ih =>
    have hpos := Text.charUnits_length_pos c
    have htail := ih (offset + (Text.charUnits c).length)
    have hbehind := (List.pairwise_cons.1 htail).1
    rw [lineOffsetsFrom]
    split
    · refine List.pairwise_cons.2 ⟨fun start hstart => ?_, htail⟩
      rcases List.mem_cons.1 hstart with rfl | hstart
      · omega
      · have := hbehind start hstart
        omega
    · refine List.pairwise_cons.2 ⟨fun start hstart => ?_, (List.pairwise_cons.1 htail).2⟩
      have := hbehind start hstart
      omega

theorem isLineTable_lineOffsets (t : Text) : IsLineTable (lineOffsets t) :=
  ⟨rfl, pairwise_lineOffsetsFrom 0 t⟩

/-- Behind the last start the last line is found. -/
theorem lineIndex_of_units_le {t : Text} (h : Text.units t ≤ offset) :
    lineIndex (lineOffsets t) offset = (Text.lines t).length - 1 := by
  have hpos : 0 < (Text.lines t).length := List.length_pos_iff.2 (Text.lines_ne_nil t)
  have hlast : (Text.lines t).length - 1 < (Text.lines t).length := Nat.sub_lt hpos Nat.one_pos
  have hstart : Text.lineStart t ((Text.lines t).length - 1) ≤ offset := by
    have hmono := Text.lineStart_mono t hlast.le
    rw [Text.lineStart_length] at hmono
    exact hmono.trans h
  refine ((isLineTable_lineOffsets t).isGreatest_lineIndex offset).unique ⟨?_, ?_⟩
  · exact ⟨_, getElem?_lineOffsets hlast, hstart⟩
  · rintro index ⟨start, hread, -⟩
    obtain ⟨hindex, -⟩ := Array.getElem?_eq_some_iff.1 hread
    rw [size_lineOffsets] at hindex
    exact Nat.le_sub_one_of_lt hindex

/-- The index of the line of an offset counts the line feeds in front of it, also behind the end of
the text. -/
theorem lineIndex_lineOffsets (t : Text) (offset : Nat) :
    lineIndex (lineOffsets t) offset = (Text.unitsBefore t offset).count 10 := by
  by_cases hinside : offset < Text.units t
  · exact (onLine_lineIndex hinside).behindLastLineFeed.1.symm
  · rw [lineIndex_of_units_le (not_lt.1 hinside), Text.length_lines, Nat.add_sub_cancel,
      Text.unitsBefore, List.take_of_length_le (not_lt.1 hinside), Text.count_codeUnits]

/-! ## The line of an offset -/

/-- What the search for an offset in a table of line starts comes to. -/
structure FindsLine (starts : Array Nat) (offset index : Nat) : Prop where
  /-- It ends, after a number of steps that is logarithmic in the size of the table. -/
  ends : ∃ steps ≤ Nat.clog 2 starts.size, Halvings starts offset 0 (starts.size - 1) steps index
  /-- There are no steps that end elsewhere. -/
  only : ∀ steps found, Halvings starts offset 0 (starts.size - 1) steps found → found = index
  /-- It finds the last line that starts at the offset or in front of it. -/
  greatest : IsGreatest {index | ∃ start ∈ starts[index]?, start ≤ offset} index

theorem IsLineTable.findsLine (h : IsLineTable starts) (offset : Nat) :
    FindsLine starts offset (lineIndex starts offset) where
  ends := by
    have hpos := h.size_pos
    obtain ⟨steps, hsteps, hends⟩ := exists_halvings offset (Nat.zero_le (starts.size - 1))
      (Nat.sub_lt hpos Nat.one_pos)
    rw [Nat.sub_zero, Nat.sub_add_cancel hpos] at hsteps
    exact ⟨steps, hsteps, hends⟩
  only _ _ hends := hends.eq_lineSearch
  greatest := h.isGreatest_lineIndex offset

/-- **The search finds the line of an offset.**  In every table of starts that increase from 0 the
search ends at the greatest index whose start is at most the offset. The table of a text is of this
kind, and in it the index is the number of line feeds in front of the offset. -/
theorem findsLine_lineIndex :
    (∀ starts, IsLineTable starts → ∀ offset, FindsLine starts offset (lineIndex starts offset)) ∧
    ∀ t offset, IsLineTable (lineOffsets t) ∧
      lineIndex (lineOffsets t) offset = (Text.unitsBefore t offset).count 10 :=
  ⟨fun _ h offset => h.findsLine offset,
    fun t offset => ⟨isLineTable_lineOffsets t, lineIndex_lineOffsets t offset⟩⟩

/-- An offset that is itself the start of a line, found between this start and the next one. -/
theorem findsLine_lineIndex_atStart :
    IsLineTable #[0, 3, 4, 10] ∧
    FindsLine #[0, 3, 4, 10] 4 (lineIndex #[0, 3, 4, 10] 4) ∧
    lineIndex #[0, 3, 4, 10] 4 = 2 :=
  have htable : IsLineTable #[0, 3, 4, 10] := ⟨rfl, by decide⟩
  have hfinds := findsLine_lineIndex.1 #[0, 3, 4, 10] htable 4
  ⟨htable, hfinds, (hfinds.only 2 2 (.upper (by decide) rfl (by decide)
    (.lower (by decide) rfl (by decide) .met))).symm⟩

end Source

end DiagnosticHints
