import DiagnosticHints.Proofs.LongestLexeme

/-!
# Lexemes alone

A lexeme that is cut again is one lexeme. The lexemes of a text on lines of their own are cut as in
the text, whatever stood between them there, and also where they are left over from a string or a
comment that is never closed; only an unclosed template may be closed by one of the other lexemes.
-/

namespace DiagnosticHints

namespace Lexicon

variable {c : Char} {raw tail rest rest' t : Text}

/-! ## White space in front of a text -/

theorem gap_append_of_isSpace {space : Text} (h : ∀ c ∈ space, isSpace c = true) (t : Text) :
    gap (space ++ t) = (space ++ (gap t).1, (gap t).2) := by
  induction space with
  | nil => rfl
  | cons c space ih =>
    rw [List.forall_mem_cons] at h
    rw [List.cons_append, gap_space h.1, ih h.2, List.cons_append]

theorem cut?_append_of_isSpace {space : Text} (h : ∀ c ∈ space, isSpace c = true) (t : Text) :
    cut? (space ++ t) = (cut? t).map fun x => { x with gap := space ++ x.gap } := by
  rw [cut?, gap_append_of_isSpace h, cut?]
  rcases gap t with ⟨g, _ | ⟨c, r⟩⟩ <;> rfl

/-- White space in front of a text moves its lexemes. -/
theorem lexemesFrom_append_of_isSpace {space : Text} (h : ∀ c ∈ space, isSpace c = true)
    (offset : Nat) (t : Text) :
    lexemesFrom offset (space ++ t) = lexemesFrom (offset + Text.units space) t := by
  have hcut := cut?_append_of_isSpace h t
  cases ht : cut? t with
  | none =>
    rw [ht] at hcut
    rw [lexemesFrom_of_cut?_none ht, lexemesFrom_of_cut?_none hcut]
  | some x =>
    rw [ht] at hcut
    rw [lexemesFrom_of_cut?_some ht, lexemesFrom_of_cut?_some hcut]
    simp only [Text.units_append, Nat.add_assoc]

theorem lexemesFrom_lineFeed (offset : Nat) (t : Text) :
    lexemesFrom offset ('\n' :: t) = lexemesFrom (offset + 1) t := by
  have hfeed : ∀ c ∈ ['\n'], isSpace c = true := List.forall_mem_singleton.2 rfl
  exact lexemesFrom_append_of_isSpace hfeed offset t

/-! ## A lexeme in front of another text -/

theorem startsGap_of_comment? {comment : Text} (h : comment? t = some (comment, rest)) :
    StartsGap t := by
  unfold comment? at h
  split at h
  · exact .line
  · next t =>
    simp only [Option.map_eq_some_iff] at h
    obtain ⟨parts, hsplit, -⟩ := h
    refine .block ?_
    by_contra hnot
    rw [(Text.splitFirst?_eq_none_iff (by simp)).2 hnot] at hsplit
    cases hsplit
  · cases h

theorem gap_of_not_startsGap (h : ¬ StartsGap t) : gap t = ([], t) := by
  cases t with
  | nil => rw [gap]
  | cons c r =>
    have hc : ¬ isSpace c = true := fun hc => h (.space (of_decide_eq_true hc))
    refine gap_of_comment?_none hc ?_
    rw [Option.eq_none_iff_forall_ne_some]
    exact fun parts hparts => h (startsGap_of_comment? hparts)

theorem Longest.tail_eq_nil_of_slash_star {u : Text} (h : Longest '/' tail rest)
    (hstar : tail ++ rest = '*' :: u) : tail = [] := by
  have hnone : ∀ operator ∈ operators, ¬ ['/', '*'] <+: operator := by decide +kernel
  rcases h.punctuator (by decide) (by decide) (by decide) with ⟨hmem, -⟩ | ⟨hnil, -⟩
  · cases tail with
    | nil => rfl
    | cons d tail =>
      obtain rfl : d = '*' := (List.cons.inj hstar).1
      exact absurd ⟨tail, rfl⟩ (hnone _ hmem)
  · exact hnil

/-- Behind a lexeme no comment is opened by a text that shows no more, unless it closes a comment
that was not closed. -/
theorem Longest.not_startsGap (h : Longest c tail rest) (hstart : ¬ StartsGap (c :: tail ++ rest))
    (hrest : ShowsNoMore rest' rest)
    (hclose : ∀ u' u, rest' = '*' :: u' → rest = '*' :: u → ['*', '/'] <:+: u' →
      ['*', '/'] <:+: u) : ¬ StartsGap (c :: tail ++ rest') := by
  have hshown : ∀ d : Char, isSpace d = false → [d] <+: tail ++ rest' → [d] <+: tail ++ rest :=
    fun d hd => hrest.append tail [d] (by simpa using hd)
  rw [List.cons_append] at hstart ⊢
  intro hgap
  generalize hbehind : tail ++ rest' = behind at hgap
  cases hgap with
  | space hc => exact hstart (.space hc)
  | @line u' =>
    obtain ⟨u, hu⟩ := hshown '/' rfl (by rw [hbehind]; exact ⟨u', rfl⟩)
    rw [← hu] at hstart
    exact hstart .line
  | @block u' hin =>
    obtain ⟨u, hu⟩ := hshown '*' rfl (by rw [hbehind]; exact ⟨u', rfl⟩)
    obtain rfl := h.tail_eq_nil_of_slash_star hu.symm
    rw [← hu] at hstart
    exact hstart (.block (hclose u' u hbehind hu.symm hin))

/-- The cut of a text that starts with its longest lexeme. -/
theorem Longest.cut?_eq (h : Longest c tail rest) (hstart : ¬ StartsGap (c :: tail ++ rest)) :
    cut? (c :: tail ++ rest) = some ⟨[], c :: tail, rest⟩ := by
  rw [List.cons_append] at hstart ⊢
  rw [cut?_of_gap (gap_of_not_startsGap hstart), h.scan_eq]

/-! ## Lexemes on lines of their own -/

theorem not_closes_nil : ¬ Closes c [] := by
  rintro ⟨body, rest, -, heq⟩
  exact List.append_ne_nil_of_right_ne_nil body (List.cons_ne_nil c rest) heq.symm

/-- A string is not closed behind a line feed. -/
theorem not_closes_lineFeed (hquote : isQuote c = true) (htick : c ≠ backtick) (t : Text) :
    ¬ Closes c ('\n' :: t) := by
  rw [← closeLiteral?_eq_none_iff hquote, closeLiteral?_of_ne (by decide)]
  have hc : ¬ '\n' = c := by
    rintro rfl
    cases hquote
  rw [if_neg hc, if_pos ⟨rfl, htick⟩]

/-- A text that is a lexeme in front of some other text, and does not start in a gap there. -/
def IsRaw (raw : Text) : Prop :=
  ∃ c tail rest, raw = c :: tail ∧ Longest c tail rest ∧ ¬ StartsGap (c :: tail ++ rest)

theorem IsRaw.cut?_eq (h : IsRaw raw) : cut? raw = some ⟨[], raw, []⟩ := by
  obtain ⟨c, tail, rest, rfl, hlongest, hstart⟩ := h
  have hcut := (hlongest.congr (showsNoMore_nil rest) fun _ _ _ => not_closes_nil).cut?_eq
    (hlongest.not_startsGap hstart (showsNoMore_nil rest) fun u' _ hu' => by cases hu')
  rwa [List.append_nil] at hcut

/-- A line feed behind a lexeme, and anything behind that, leaves the lexeme as it is. -/
theorem IsRaw.cut?_append_lineFeed (h : IsRaw raw) (htick : raw ≠ [backtick]) (t : Text) :
    cut? (raw ++ '\n' :: t) = some ⟨[], raw, '\n' :: t⟩ := by
  obtain ⟨c, tail, rest, rfl, hlongest, hstart⟩ := h
  have hrest : ShowsNoMore ('\n' :: t) rest := showsNoMore_space (by decide) t rest
  have hopen : isQuote c = true → tail = [] → ¬ Closes c rest → ¬ Closes c ('\n' :: t) := by
    rintro hquote rfl -
    exact not_closes_lineFeed hquote (fun hc => htick (by rw [hc])) t
  exact (hlongest.congr hrest hopen).cut?_eq
    (hlongest.not_startsGap hstart hrest fun u' _ hu' => by cases hu')

theorem IsRaw.lexemes_eq (h : IsRaw raw) : lexemes raw = [⟨raw, 0⟩] := by
  rw [lexemes, lexemesFrom_of_cut?_some h.cut?_eq, lexemesFrom_nil]
  rfl

/-- Lexemes on lines of their own are cut as they are. -/
theorem map_raw_joinLines {raws : List Text} (h : ∀ raw ∈ raws, IsRaw raw)
    (htick : ∀ raw ∈ raws, raw ≠ [backtick]) (offset : Nat) :
    (lexemesFrom offset (Text.joinLines raws)).map (·.raw) = raws := by
  induction raws generalizing offset with
  | nil =>
    rw [Text.joinLines, List.intercalate_nil, lexemesFrom_nil, List.map_nil]
  | cons raw raws ih =>
    rw [List.forall_mem_cons] at h htick
    cases raws with
    | nil =>
      rw [Text.joinLines, List.intercalate_singleton, lexemesFrom_of_cut?_some h.1.cut?_eq,
        lexemesFrom_nil]
      rfl
    | cons next raws =>
      have hcut := h.1.cut?_append_lineFeed htick.1 (Text.joinLines (next :: raws))
      rw [Text.joinLines_cons_cons, lexemesFrom_of_cut?_some hcut, List.map_cons,
        lexemesFrom_lineFeed, ih h.2 htick.2]

/-- **Lexemes depend on themselves alone.**  Each lexeme of a text is, by itself, a text of this one
lexeme; and where no template is left unclosed, the lexemes on lines of their own make a text with
the same lexemes, so that nothing between them matters. -/
theorem lexemes_raw_eq (t : Text) :
    (∀ x ∈ lexemes t, lexemes x.raw = [⟨x.raw, 0⟩]) ∧
      ((∀ x ∈ lexemes t, x.raw ≠ [backtick]) →
        (lexemes (Text.joinLines ((lexemes t).map (·.raw)))).map (·.raw) =
          (lexemes t).map (·.raw)) := by
  have hraw : ∀ x ∈ lexemes t, IsRaw x.raw := fun x hx => by
    obtain ⟨c, tail, rest, heq, -, hlongest, hstart⟩ :=
      exists_longest_of_mem (List.nil_append t) hx
    exact ⟨c, tail, rest, heq, hlongest, hstart⟩
  refine ⟨fun x hx => (hraw x hx).lexemes_eq, fun htick => ?_⟩
  exact map_raw_joinLines (List.forall_mem_map.2 hraw) (List.forall_mem_map.2 htick) 0

/-- Left over from a comment and from strings that are never closed, with all that could run
together: names and digits, points and digits, slashes and a star. -/
def leftovers : Text := "a#b 1..5/1.x.2/* \\'c\n\x22\\\n\x27>>>==/=/**"

theorem lexemes_raw_leftovers :
    (∀ x ∈ lexemes leftovers, x.raw ≠ [backtick]) ∧
      (lexemes (Text.joinLines ((lexemes leftovers).map (·.raw)))).map (·.raw) =
        (lexemes leftovers).map (·.raw) :=
  have htick : ∀ x ∈ lexemes leftovers, x.raw ≠ [backtick] := by decide +kernel
  ⟨htick, (lexemes_raw_eq leftovers).2 htick⟩

end Lexicon

end DiagnosticHints
