import Mathlib.Data.List.Forall2
import Mathlib.Data.List.Pairwise
import DiagnosticHints.Proofs.GroupedLexing
import DiagnosticHints.Proofs.Segmentation

/-!
# Tokens and the places they cover

A place of a source file is a line and a column; an offset counts units from the start of the
text. Looking a place up among the tokens of a source is the same as looking its offset up among
the lexemes of the text: the table of line starts is exact, the search in it finds the line that an
offset lies on, and a token covers the places on its own line whose offsets its lexeme holds. A
token of several lines reaches behind the end of its first one, but lexemes do not overlap, so no
place is covered twice and the order of the tokens does not matter.
-/

namespace DiagnosticHints

namespace Text

/-! ## Where lines start -/

/-- The offset at which the line with an index starts; behind the last line, where the text ends. -/
def lineStart (t : Text) (index : Nat) : Nat := units ((lines t).take index).flatten

/-- An offset lies on the line with an index. -/
structure OnLine (t : Text) (index offset : Nat) : Prop where
  index_lt : index < (lines t).length
  start_le : lineStart t index ≤ offset
  lt_next : offset < lineStart t (index + 1)

theorem lineStart_zero (t : Text) : lineStart t 0 = 0 := by
  rw [lineStart, List.take_zero, List.flatten_nil, units_nil]

theorem lineStart_length (t : Text) : lineStart t (lines t).length = units t := by
  rw [lineStart, List.take_length, flatten_lines]

theorem lineStart_mono (t : Text) {i j : Nat} (h : i ≤ j) : lineStart t i ≤ lineStart t j := by
  obtain ⟨k, rfl⟩ := Nat.exists_eq_add_of_le h
  rw [lineStart, lineStart, List.take_add, List.flatten_append, units_append]
  exact Nat.le_add_right _ _

theorem lines_lineFeed (t : Text) : lines ('\n' :: t) = ['\n'] :: lines t := by
  have h : lines ('\n' :: t) = consLine '\n' (lines t) := rfl
  cases hl : lines t with
  | nil => exact absurd hl (lines_ne_nil t)
  | cons line rest => rw [h, hl, consLine, if_pos rfl]

theorem lines_cons {c : Char} {t line : Text} {rest : List Text} (hc : c ≠ '\n')
    (h : lines t = line :: rest) : lines (c :: t) = (c :: line) :: rest := by
  have hcons : lines (c :: t) = consLine c (lines t) := rfl
  rw [hcons, h, consLine, if_neg hc]

theorem lineStart_lineFeed (t : Text) (i : Nat) :
    lineStart ('\n' :: t) (i + 1) = (charUnits '\n').length + lineStart t i := by
  rw [lineStart, lines_lineFeed, List.take_succ_cons, List.flatten_cons, List.singleton_append,
    units_cons, lineStart]

theorem lineStart_cons {c : Char} (hc : c ≠ '\n') (t : Text) (i : Nat) :
    lineStart (c :: t) (i + 1) = (charUnits c).length + lineStart t (i + 1) := by
  obtain ⟨line, rest, hlines⟩ := List.exists_cons_of_ne_nil (lines_ne_nil t)
  rw [lineStart, lineStart, lines_cons hc hlines, hlines, List.take_succ_cons,
    List.take_succ_cons, List.flatten_cons, List.flatten_cons, List.cons_append, units_cons]

/-- An offset lies on one line only. -/
theorem OnLine.index_eq {t : Text} {i j offset : Nat} (hi : OnLine t i offset)
    (hj : OnLine t j offset) : i = j := by
  have hle : ∀ {a b : Nat}, OnLine t a offset → OnLine t b offset → b ≤ a := by
    intro a b ha hb
    by_contra hlt
    have hmono := lineStart_mono t (i := a + 1) (j := b) (by omega)
    have hnext := ha.lt_next
    have hstart := hb.start_le
    omega
  exact Nat.le_antisymm (hle hj hi) (hle hi hj)

end Text

namespace Source

/-! ## The table of line starts -/

/-- The table holds the start of each line, one after the other. -/
theorem lineOffsetsFrom_eq (offset : Nat) (t : Text) :
    offset :: lineOffsetsFrom offset t =
      (List.range (Text.lines t).length).map fun i => offset + Text.lineStart t i := by
  induction t generalizing offset with
  | nil => rfl
  | cons c t ih =>
    have htail := ih (offset + (Text.charUnits c).length)
    rw [lineOffsetsFrom]
    by_cases hc : c = '\n'
    · subst hc
      simp only [if_pos]
      rw [htail, Text.lines_lineFeed, List.length_cons, List.range_succ_eq_map, List.map_cons,
        Text.lineStart_zero, Nat.add_zero, List.map_map]
      congr 1
      refine List.map_congr_left fun i _ => ?_
      rw [Function.comp_apply, Text.lineStart_lineFeed, Nat.add_assoc]
    · -- the first line grows by the character, so the starts behind it move together
      obtain ⟨line, rest, hlines⟩ := List.exists_cons_of_ne_nil (Text.lines_ne_nil t)
      rw [hlines, List.length_cons, List.range_succ_eq_map, List.map_cons, List.map_map,
        List.cons.injEq] at htail
      simp only [if_neg hc]
      rw [htail.2, Text.lines_cons hc hlines, List.length_cons, List.range_succ_eq_map,
        List.map_cons, Text.lineStart_zero, Nat.add_zero, List.map_map]
      congr 1
      refine List.map_congr_left fun i _ => ?_
      rw [Function.comp_apply, Function.comp_apply, Text.lineStart_cons hc, Nat.add_assoc]

theorem size_lineOffsets (t : Text) : (lineOffsets t).size = (Text.lines t).length := by
  rw [lineOffsets, lineOffsetsFrom_eq, List.size_toArray, List.length_map, List.length_range]

theorem getD_lineOffsets {t : Text} {i : Nat} (h : i < (Text.lines t).length) :
    (lineOffsets t).getD i 0 = Text.lineStart t i := by
  rw [lineOffsets, lineOffsetsFrom_eq]
  simp [h]

theorem getElem?_lineOffsets {t : Text} {i : Nat} (h : i < (Text.lines t).length) :
    (lineOffsets t)[i]? = some (Text.lineStart t i) := by
  have hsize : i < (lineOffsets t).size := by rwa [size_lineOffsets]
  rw [← getD_lineOffsets h, Array.getD_eq_getD_getElem?, Array.getElem?_eq_getElem hsize,
    Option.getD_some]

/-- The table of line starts, with the end of the text as the start of a line behind the last. -/
theorem getD_lineOffsets_units {t : Text} {i : Nat} (h : i ≤ (Text.lines t).length) :
    (lineOffsets t).getD i (Text.units t) = Text.lineStart t i := by
  rw [Array.getD_eq_getD_getElem?]
  rcases Nat.lt_or_eq_of_le h with hlt | rfl
  · rw [getElem?_lineOffsets hlt, Option.getD_some]
  · rw [← size_lineOffsets, Array.getElem?_eq_none (Nat.le_refl _), Option.getD_none,
      size_lineOffsets, Text.lineStart_length]

/-- The search keeps the answer between its ends: the start at the index it finds is not behind
the offset, and the next start, if there is one in the interval, is. -/
theorem lineSearch_spec {starts : Array Nat} {offset low high : Nat} (hle : low ≤ high)
    (hlow : starts.getD low 0 ≤ offset) :
    lineSearch starts offset low high ≤ high ∧
      starts.getD (lineSearch starts offset low high) 0 ≤ offset ∧
      (lineSearch starts offset low high < high →
        offset < starts.getD (lineSearch starts offset low high + 1) 0) := by
  fun_induction lineSearch starts offset low high with
  | case1 low high hlt middle hstart ih => exact ih (by omega) hstart
  | case2 low high hlt middle hstart ih =>
    obtain ⟨hhigh, hfound, hnext⟩ := ih (by omega) hlow
    refine ⟨by omega, hfound, fun _ => ?_⟩
    by_cases hlast : lineSearch starts offset low (middle - 1) < middle - 1
    · exact hnext hlast
    · have heq : lineSearch starts offset low (middle - 1) + 1 = middle := by omega
      rw [heq]
      omega
  | case3 low high hlt => exact ⟨hle, hlow, fun h => absurd h hlt⟩

/-- The search finds the line that an offset lies on. -/
theorem onLine_lineIndex {t : Text} {offset : Nat} (h : offset < Text.units t) :
    Text.OnLine t (lineIndex (lineOffsets t) offset) offset := by
  have hpos : 0 < (Text.lines t).length := List.length_pos_iff.2 (Text.lines_ne_nil t)
  have hfirst : (lineOffsets t).getD 0 0 ≤ offset := by
    rw [getD_lineOffsets hpos, Text.lineStart_zero]
    exact Nat.zero_le _
  obtain ⟨hhigh, hfound, hnext⟩ := lineSearch_spec (Nat.zero_le ((lineOffsets t).size - 1)) hfirst
  rw [← lineIndex, size_lineOffsets] at hhigh hnext
  rw [← lineIndex] at hfound
  have hlt : lineIndex (lineOffsets t) offset < (Text.lines t).length := by omega
  refine ⟨hlt, by rwa [getD_lineOffsets hlt] at hfound, ?_⟩
  by_cases hlast : lineIndex (lineOffsets t) offset < (Text.lines t).length - 1
  · have := hnext hlast
    rwa [getD_lineOffsets (by omega)] at this
  · -- the last line reaches to the end of the text
    have heq : lineIndex (lineOffsets t) offset + 1 = (Text.lines t).length := by omega
    rwa [heq, Text.lineStart_length]

/-! ## Tokens of lexemes -/

/-- A token is a lexeme that starts on the line with an index, at the column of its start. -/
def Places (text : Text) (index : Nat) (x : Lexeme) (token : Token) : Prop :=
  Text.OnLine text index x.offset ∧
    token = ⟨x.raw, (index : Int) + 1, (x.offset : Int) - Text.lineStart text index⟩

/-- The range of a lexeme holds an offset. -/
def Holds (x : Lexeme) (offset : Nat) : Prop := x.offset ≤ offset ∧ offset < x.stop

instance (x : Lexeme) (offset : Nat) : Decidable (Holds x offset) :=
  inferInstanceAs (Decidable (_ ∧ _))

theorem holds_mk {raw : Text} {start offset : Nat} :
    Holds ⟨raw, start⟩ offset ↔ start ≤ offset ∧ offset < start + Text.units raw :=
  Iff.rfl

variable {text : Text} {xs : List Lexeme} {x y : Lexeme} {a b token : Token} {found : List Token}
  {i j : Nat}

theorem exists_places_tokenOf (h : x.offset < Text.units text) :
    ∃ index, Places text index x (tokenOf (lineOffsets text) x) := by
  have hline := onLine_lineIndex h
  refine ⟨_, hline, ?_⟩
  rw [tokenOf, getD_lineOffsets hline.index_lt]

/-- A lexeme makes one token only. -/
theorem Places.token_eq (ha : Places text i x a) (hb : Places text j x b) : a = b := by
  obtain ⟨hi, rfl⟩ := ha
  obtain ⟨hj, rfl⟩ := hb
  rw [hi.index_eq hj]

/-- A token covers the places on its line whose offsets its lexeme holds. -/
theorem Places.covers_iff (h : Places text i x token) (line : Int) (behind : Nat) :
    token.covers line behind = true ↔
      line = i + 1 ∧ Holds x (Text.lineStart text i + behind) := by
  obtain ⟨hline, rfl⟩ := h
  have hstart := hline.start_le
  simp only [Token.covers, Bool.and_eq_true, beq_iff_eq, decide_eq_true_eq, Holds, Lexeme.stop]
  omega

/-- Lexemes apart from each other make tokens whose spans on a line are apart. -/
theorem Places.column_add_le (ha : Places text i x a) (hb : Places text j y b)
    (hle : x.stop ≤ y.offset) (hline : a.line = b.line) :
    a.column + (Text.units a.raw : Int) ≤ b.column := by
  obtain ⟨_, rfl⟩ := ha
  obtain ⟨_, rfl⟩ := hb
  have hindex : i = j := by
    dsimp only at hline
    omega
  subst hindex
  rw [Lexeme.stop] at hle
  dsimp only
  omega

/-- Lexemes that follow one another without overlap hold an offset once. -/
theorem eq_of_holds (h : List.Pairwise (fun x y => x.offset < y.offset ∧ x.stop ≤ y.offset) xs)
    (hx : x ∈ xs) (hy : y ∈ xs) {offset : Nat} (hxo : Holds x offset) (hyo : Holds y offset) :
    x = y := by
  have hapart : List.Pairwise (fun x y => ¬ (Holds x offset ∧ Holds y offset)) xs := by
    refine h.imp fun hxy hboth => ?_
    have hstop := hboth.1.2
    have hstart := hboth.2.1
    omega
  have hsymm : Std.Symm fun x y => ¬ (Holds x offset ∧ Holds y offset) :=
    ⟨fun _ _ hxy hyx => hxy hyx.symm⟩
  by_contra hne
  exact hapart.forall hx hy hne ⟨hxo, hyo⟩

/-! ## Spans on a line -/

/-- Where no two elements of a list satisfy a predicate, the first one that does is the only
one. -/
theorem find?_eq_some_iff_mem {α : Type} {p : α → Bool} {l : List α} {c : α}
    (h : l.Pairwise fun d e => ¬ (p d = true ∧ p e = true)) :
    l.find? p = some c ↔ c ∈ l ∧ p c = true := by
  induction l with
  | nil => simp
  | cons d l ih =>
    obtain ⟨hd, hl⟩ := List.pairwise_cons.1 h
    rw [List.find?_cons, List.mem_cons]
    cases hp : p d with
    | true =>
      have hnone : ∀ e ∈ l, ¬ p e = true := fun e he hpe => hd e he ⟨hp, hpe⟩
      constructor
      · intro heq
        obtain rfl := Option.some.inj heq
        exact ⟨Or.inl rfl, hp⟩
      · rintro ⟨rfl | hmem, hc⟩
        · rfl
        · exact absurd hc (hnone c hmem)
    | false =>
      have hne : p c = true → c ≠ d := by
        rintro hc rfl
        rw [hp] at hc
        cases hc
      rw [ih hl]
      exact ⟨fun ⟨hmem, hc⟩ => ⟨Or.inr hmem, hc⟩,
        fun ⟨hmem, hc⟩ => ⟨hmem.resolve_left (hne hc), hc⟩⟩

/-- The spans of some tokens are apart wherever they are on one line. -/
def SpansApart (found : List Token) : Prop :=
  found.Pairwise fun a b => a.line = b.line → a.column + (Text.units a.raw : Int) ≤ b.column

namespace SpansApart

/-- Tokens with spans apart never cover a place together. -/
theorem not_both (h : SpansApart found) (line column : Int) :
    found.Pairwise fun a b => ¬ (a.covers line column = true ∧ b.covers line column = true) := by
  refine List.Pairwise.imp (fun {a b} hab => ?_) h
  simp only [Token.covers, Bool.and_eq_true, beq_iff_eq, decide_eq_true_eq]
  rintro ⟨⟨⟨ha, _⟩, hlt⟩, ⟨⟨hb, hle⟩, _⟩⟩
  have := hab (ha.trans hb.symm)
  omega

/-- With spans apart, being the first token that covers a place is no condition. -/
theorem tokenUnder?_eq_some_iff (h : SpansApart found) (line : Int) (behind : Nat) :
    tokenUnder? found line (behind + 1) = some token ↔
      token ∈ found ∧ token.covers line behind = true := by
  rw [tokenUnder?, if_neg (by omega), Int.add_sub_cancel, find?_eq_some_iff_mem (h.not_both _ _)]

theorem tokenUnder?_perm (h : SpansApart found) {shuffled : List Token}
    (hperm : shuffled.Perm found) (line column : Int) :
    tokenUnder? shuffled line column = tokenUnder? found line column := by
  have hfound := h.not_both line (column - 1)
  have hshuffled := (hperm.pairwise_iff fun hab hba => hab hba.symm).2 hfound
  rw [tokenUnder?, tokenUnder?]
  congr 1
  ext token
  rw [find?_eq_some_iff_mem hfound, find?_eq_some_iff_mem hshuffled, hperm.mem_iff]

end SpansApart

/-! ## Looking up by offset -/

/-- Some tokens are the lexemes of a text, and looking a place up among them is looking its offset
up among the lexemes. -/
structure LookupByOffset (text : Text) (xs : List Lexeme) (found : List Token) : Prop where
  /-- The tokens are the lexemes, in order, each with its line and column. -/
  placed : List.Forall₂ (fun x token => ∃ index, Places text index x token) xs found
  /-- The range of a lexeme is where its characters stand in the text. -/
  range : ∀ x ∈ xs, (Text.codeUnits text).extract x.offset x.stop = Text.codeUnits x.raw
  /-- No offset is in the ranges of two lexemes. -/
  unique : ∀ x ∈ xs, ∀ y ∈ xs, ∀ offset, Holds x offset → Holds y offset → x = y
  /-- What is found at a place is the lexeme that holds the offset of the place, provided that it
  starts on the line of the place. -/
  lookup : ∀ (line column : Int) (token : Token), tokenUnder? found line column = some token ↔
    ∃ index behind : Nat, line = index + 1 ∧ column = behind + 1 ∧
      ∃ x ∈ xs, Places text index x token ∧ Holds x (Text.lineStart text index + behind)
  /-- Nothing is found outside the lines of the text, or in front of its first column. -/
  outside : ∀ line column : Int, line < 1 ∨ (Text.lines text).length < line ∨ column < 1 →
    tokenUnder? found line column = none
  /-- No two spans on a line overlap. -/
  disjoint : SpansApart found
  /-- The order of the tokens does not matter. -/
  order_free : ∀ shuffled : List Token, shuffled.Perm found → ∀ line column : Int,
    tokenUnder? shuffled line column = tokenUnder? found line column

/-- A lexeme of a cut text makes a token on the line where it starts. -/
theorem exists_places_of_segmentation (h : Lexicon.Segmentation text 0 xs) (hx : x ∈ xs) :
    ∃ index, Places text index x (tokenOf (lineOffsets text) x) := by
  obtain ⟨rest, ⟨before, rfl, hoffset⟩, _⟩ := h.starts x hx
  have hpos := Text.units_pos (h.raw_ne_nil x hx)
  refine exists_places_tokenOf ?_
  simp only [Text.units_append]
  omega

theorem spansApart_of_segmentation (h : Lexicon.Segmentation text 0 xs) :
    SpansApart (xs.map (tokenOf (lineOffsets text))) := by
  rw [SpansApart, List.pairwise_map]
  refine h.ordered.imp_of_mem fun {x y} hx hy hxy hline => ?_
  obtain ⟨i, hi⟩ := exists_places_of_segmentation h hx
  obtain ⟨j, hj⟩ := exists_places_of_segmentation h hy
  exact hi.column_add_le hj hxy.2 hline

/-- What is found at a place among the tokens of a cut text. -/
theorem tokenUnder?_of_segmentation (h : Lexicon.Segmentation text 0 xs) (line column : Int) :
    tokenUnder? (xs.map (tokenOf (lineOffsets text))) line column = some token ↔
      ∃ index behind : Nat, line = index + 1 ∧ column = behind + 1 ∧
        ∃ x ∈ xs, Places text index x token ∧ Holds x (Text.lineStart text index + behind) := by
  constructor
  · intro hfound
    have hcolumn : ¬ column < 1 := fun hlt => by
      rw [tokenUnder?, if_pos hlt] at hfound
      cases hfound
    obtain ⟨behind, rfl⟩ : ∃ behind : Nat, column = behind + 1 := ⟨(column - 1).toNat, by omega⟩
    rw [(spansApart_of_segmentation h).tokenUnder?_eq_some_iff] at hfound
    obtain ⟨x, hx, rfl⟩ := List.mem_map.1 hfound.1
    obtain ⟨index, hplaces⟩ := exists_places_of_segmentation h hx
    obtain ⟨hline, hholds⟩ := (hplaces.covers_iff line behind).1 hfound.2
    exact ⟨index, behind, hline, rfl, x, hx, hplaces, hholds⟩
  · rintro ⟨index, behind, hline, rfl, x, hx, hplaces, hholds⟩
    rw [(spansApart_of_segmentation h).tokenUnder?_eq_some_iff]
    obtain ⟨_, hown⟩ := exists_places_of_segmentation h hx
    obtain rfl := hplaces.token_eq hown
    exact ⟨List.mem_map_of_mem hx, (hplaces.covers_iff line behind).2 ⟨hline, hholds⟩⟩

theorem lookupByOffset_of_segmentation (h : Lexicon.Segmentation text 0 xs) :
    LookupByOffset text xs (xs.map (tokenOf (lineOffsets text))) where
  placed := by
    rw [List.forall₂_map_right_iff, List.forall₂_same]
    exact fun x hx => exists_places_of_segmentation h hx
  range := h.raw_eq
  unique _ hx _ hy _ := eq_of_holds h.ordered hx hy
  lookup line column _ := tokenUnder?_of_segmentation h line column
  outside line column houtside := by
    rw [Option.eq_none_iff_forall_ne_some]
    intro token hfound
    obtain ⟨index, behind, hline, hcolumn, x, _, ⟨hon, _⟩, _⟩ :=
      (tokenUnder?_of_segmentation h line column).1 hfound
    have := hon.index_lt
    omega
  disjoint := spansApart_of_segmentation h
  order_free _ hperm := (spansApart_of_segmentation h).tokenUnder?_perm hperm

/-- **Looking up a place is looking up its offset.**  At a line and a column the tokens of a source
show the one lexeme whose range holds the offset of this place, if it starts on this line, and
nothing otherwise; spans on one line are apart, also those of lexemes that run over several
lines. -/
theorem lookupByOffset_tokens (source : Text) :
    LookupByOffset (Text.dropMark source) (Lexicon.lexemes (Text.dropMark source))
      (tokens source) := by
  have hcut := Lexicon.segmentation_lexemesFrom (List.nil_append (Text.dropMark source))
  rw [tokens, tokensBy, groupedLexemes_eq_lexemes]
  exact lookupByOffset_of_segmentation hcut

end Source

end DiagnosticHints
