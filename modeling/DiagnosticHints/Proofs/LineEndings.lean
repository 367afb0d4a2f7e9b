import DiagnosticHints.Proofs.BlankedGaps

/-!
# Line endings

A text is given another kind of line ending by a carriage return in front of each line feed. To a
template, a comment and white space a carriage return is one character more, so their lexemes come
out again, with the other line endings, and the lexemes behind them keep their lines and columns. A
string is another matter: a backslash takes one character with it, which is then the carriage
return, and the line feed ends the string. So the tokens are the same exactly where no string goes
on behind the end of a line.
-/

namespace DiagnosticHints

namespace Text

/-! ## Carriage returns in front of line feeds -/

/-- A line feed with a carriage return in front of it; any other character alone. -/
def withReturn (c : Char) : Text := if c = '\n' then ['\r', '\n'] else [c]

/-- A text with a carriage return in front of each line feed. -/
def withReturns (t : Text) : Text := t.flatMap withReturn

variable {c : Char} {t : Text}

theorem withReturns_nil : withReturns [] = [] := rfl

theorem withReturns_append (a b : Text) :
    withReturns (a ++ b) = withReturns a ++ withReturns b :=
  List.flatMap_append

theorem withReturns_lineFeed (t : Text) :
    withReturns ('\n' :: t) = '\r' :: '\n' :: withReturns t :=
  rfl

theorem withReturns_cons (hc : c ≠ '\n') (t : Text) :
    withReturns (c :: t) = c :: withReturns t := by
  rw [withReturns, List.flatMap_cons, withReturn, if_neg hc, List.singleton_append, withReturns]

/-- Induction over a text with a case of its own for line feeds. -/
theorem lineFeed_induction {motive : Text → Prop} (nil : motive [])
    (lineFeed : ∀ t, motive t → motive ('\n' :: t))
    (char : ∀ c t, c ≠ '\n' → motive t → motive (c :: t)) (t : Text) : motive t := by
  induction t with
  | nil => exact nil
  | cons c t ih =>
    by_cases hc : c = '\n'
    · subst hc
      exact lineFeed t ih
    · exact char c t hc ih

theorem withReturns_eq_self (h : '\n' ∉ t) : withReturns t = t := by
  induction t with
  | nil => rfl
  | cons c t ih =>
    rw [List.mem_cons, not_or] at h
    rw [withReturns_cons (Ne.symm h.1), ih h.2]

theorem lineFeed_mem_withReturns (h : '\n' ∈ t) : '\n' ∈ withReturns t :=
  List.mem_flatMap.2 ⟨'\n', h, by decide⟩

theorem count_lineFeed_withReturns (t : Text) :
    (withReturns t).count '\n' = t.count '\n' := by
  induction t using lineFeed_induction with
  | nil => rfl
  | lineFeed t ih =>
    rw [withReturns_lineFeed, List.count_cons_of_ne (by decide), List.count_cons_self,
      List.count_cons_self, ih]
  | char c t hc ih =>
    rw [withReturns_cons hc, List.count_cons_of_ne hc, List.count_cons_of_ne hc, ih]

theorem EndsLine.withReturns (h : EndsLine t) : EndsLine (withReturns t) := by
  rcases List.eq_nil_or_concat t with rfl | ⟨body, c, rfl⟩
  · exact h
  · rw [List.concat_eq_append] at h ⊢
    obtain rfl := h c List.getLast?_concat
    rw [withReturns_append]
    intro d hd
    rw [Option.mem_def, withReturns_lineFeed, withReturns_nil, List.getLast?_append] at hd
    exact (Option.some.inj hd).symm

theorem dropMark_withReturns (t : Text) : dropMark (withReturns t) = withReturns (dropMark t) := by
  induction t using lineFeed_induction with
  | nil => rfl
  | lineFeed t => rfl
  | char c t hc =>
    rw [withReturns_cons hc, dropMark, dropMark]
    split
    · rfl
    · rw [withReturns_cons hc]

end Text

namespace Lexicon

open Text (withReturns withReturns_append withReturns_cons withReturns_lineFeed)

variable {c d quote : Char} {t u v g body tail rest raw : Text} {x : Cut}

/-! ## What a carriage return shows -/

theorem isSpace_return : isSpace '\r' = true := by decide

theorem isSpace_lineFeed : isSpace '\n' = true := by decide

/-- The first character of a text, if it is no white space, is none of the line endings. -/
theorem exists_of_withReturns_eq_cons (h : withReturns t = d :: v) (hd : isSpace d = false) :
    ∃ u, t = d :: u ∧ v = withReturns u := by
  induction t using Text.lineFeed_induction with
  | nil => cases h
  | lineFeed u =>
    rw [withReturns_lineFeed, List.cons.injEq] at h
    rw [← h.1, isSpace_return] at hd
    cases hd
  | char c u hc =>
    rw [withReturns_cons hc, List.cons.injEq] at h
    exact ⟨u, by rw [h.1], h.2.symm⟩

theorem showsNoMore_withReturns (t : Text) : ShowsNoMore (withReturns t) t := by
  induction t using Text.lineFeed_induction with
  | nil => exact showsNoMore_nil []
  | lineFeed t => exact showsNoMore_space isSpace_return _ _
  | char c t hc ih =>
    rw [withReturns_cons hc]
    exact ih.append [c]

/-- No comment is closed by a line ending. -/
theorem closes_comment_of_withReturns (h : ['*', '/'] <:+: withReturns t) : ['*', '/'] <:+: t := by
  have hmarks : ∀ c ∈ ['*', '/'], isSpace c = false :=
    List.forall_mem_cons.2 ⟨rfl, List.forall_mem_singleton.2 rfl⟩
  induction t using Text.lineFeed_induction with
  | nil => exact h
  | lineFeed t ih =>
    have hends : '*' ∉ ['\r', '\n'] := by decide
    exact (ih (Text.infix_of_infix_append hends h)).trans (List.suffix_cons _ t).isInfix
  | char c t hc ih =>
    have hshown := showsNoMore_withReturns (c :: t) _ hmarks
    rw [withReturns_cons hc] at h hshown
    rw [List.infix_cons_iff] at h ⊢
    exact h.imp hshown ih

theorem not_startsGap_withReturns (h : ¬ StartsGap t) : ¬ StartsGap (withReturns t) := by
  intro hgap
  generalize ht : withReturns t = t' at hgap
  cases hgap with
  | space hc =>
    induction t using Text.lineFeed_induction with
    | nil => cases ht
    | lineFeed t => exact h (.space (by decide))
    | char d t hd =>
      rw [withReturns_cons hd, List.cons.injEq] at ht
      rw [← ht.1] at hc
      exact h (.space hc)
  | line =>
    obtain ⟨u, rfl, hu⟩ := exists_of_withReturns_eq_cons ht rfl
    obtain ⟨_, rfl, -⟩ := exists_of_withReturns_eq_cons hu.symm rfl
    exact h .line
  | block hin =>
    obtain ⟨u, rfl, hu⟩ := exists_of_withReturns_eq_cons ht rfl
    obtain ⟨_, rfl, rfl⟩ := exists_of_withReturns_eq_cons hu.symm rfl
    exact h (.block (closes_comment_of_withReturns hin))

/-! ## Gaps -/

theorem comment?_line (hbody : '\n' ∉ body) (hrest : ∀ c ∈ rest.head?, c = '\n') :
    comment? ('/' :: '/' :: (body ++ rest)) = some ('/' :: '/' :: body, rest) := by
  have hline : ExtendsOver (· != '\n') body rest := by
    refine ⟨fun c hc => bne_iff_ne.2 ?_, fun c hc => by rw [hrest c hc]; rfl⟩
    rintro rfl
    exact hbody hc
  rw [comment?, hline.takeWhile_append, hline.dropWhile_append]

theorem comment?_block (hbody : ¬ ['*', '/'] <:+: body) (rest : Text) :
    comment? ('/' :: '*' :: (body ++ '*' :: '/' :: rest)) =
      some ('/' :: '*' :: (body ++ ['*', '/']), rest) := by
  have hsplit := Text.splitFirst?_append (m := ['/']) (by decide) hbody rest
  rw [List.cons_append, List.singleton_append] at hsplit
  rw [comment?, hsplit]
  rfl

/-- With other line endings a gap is still all gap. A line comment takes the carriage return behind
it, and leaves the line feed to the gap as before. -/
theorem IsGap.gap_withReturns (h : IsGap u g) :
    gap (withReturns (g ++ u)) =
      (withReturns g ++ (gap (withReturns u)).1, (gap (withReturns u)).2) := by
  induction h with
  | nil => rfl
  | @space c g hc _ ih =>
    have hspace : isSpace c = true := decide_eq_true hc
    by_cases hline : c = '\n'
    · subst hline
      rw [List.cons_append, withReturns_lineFeed, gap_space isSpace_return,
        gap_space isSpace_lineFeed, ih, withReturns_lineFeed]
      rfl
    · rw [List.cons_append, withReturns_cons hline, gap_space hspace, ih, withReturns_cons hline]
      rfl
  | @line body g hbody hhead _ ih =>
    have hslash : ∀ t : Text, withReturns ('/' :: '/' :: t) = '/' :: '/' :: withReturns t :=
      fun t => rfl
    simp only [List.cons_append, List.append_assoc, hslash, withReturns_append _ (g ++ u),
      withReturns_append body, Text.withReturns_eq_self hbody]
    cases hgu : g ++ u with
    | nil =>
      rw [hgu] at ih
      rw [gap_comment (by decide) (comment?_line hbody fun c hc => by cases hc), ih]
      simp
    | cons c w =>
      rw [hgu] at ih hhead
      obtain rfl := hhead c rfl
      have hreturn : '\n' ∉ body ++ ['\r'] := by simp [hbody]
      have hcomment := comment?_line hreturn
        (show ∀ c ∈ ('\n' :: withReturns w).head?, c = '\n' from fun c hc =>
          (Option.some.inj hc).symm)
      rw [List.append_assoc, List.singleton_append] at hcomment
      rw [withReturns_lineFeed, gap_space isSpace_return, Prod.mk.injEq] at ih
      rw [withReturns_lineFeed, gap_comment (by decide) hcomment, ih.2]
      simp [ih.1]
  | @block body g hbody _ ih =>
    have hopen : ∀ t : Text, withReturns ('/' :: '*' :: t) = '/' :: '*' :: withReturns t :=
      fun t => rfl
    have hclose : ∀ t : Text, withReturns ('*' :: '/' :: t) = '*' :: '/' :: withReturns t :=
      fun t => rfl
    have hcomment := comment?_block (fun h => hbody (closes_comment_of_withReturns h))
      (withReturns (g ++ u))
    simp only [List.cons_append, List.append_assoc, hopen, hclose, withReturns_append body]
    rw [gap_comment (by decide) hcomment, ih]
    simp

theorem gap_withReturns (t : Text) :
    gap (withReturns t) = (withReturns (gap t).1, withReturns (gap t).2) := by
  have hgap := (isGap_gap t).gap_withReturns
  rw [gap_append, gap_of_not_startsGap (not_startsGap_withReturns (not_startsGap_gap t)),
    List.append_nil] at hgap
  exact hgap

/-! ## Lexemes -/

/-- A literal that is never closed is not closed by other line endings. -/
theorem closeLiteral?_withReturns_of_none (hquote : isQuote quote = true)
    (h : closeLiteral? quote t = none) : closeLiteral? quote (withReturns t) = none := by
  have hends : '\r' ≠ quote ∧ '\n' ≠ quote := by
    rcases quote_cases hquote with rfl | rfl | rfl <;> decide
  induction t using literal_induction with
  | nil => rfl
  | lone => rfl
  | escape c t ih =>
    rw [closeLiteral?_backslash, List.tail_cons] at h
    rw [withReturns_cons (by decide), closeLiteral?_backslash]
    by_cases hc : c = '\n'
    · subst hc
      rw [withReturns_lineFeed, List.tail_cons, closeLiteral?_cons_eq_none_iff (by decide)]
      exact ⟨hends.2, Or.inr (ih h)⟩
    · rw [withReturns_cons hc, List.tail_cons, ih h]
  | char c t hslash ih =>
    rw [closeLiteral?_cons_eq_none_iff hslash] at h
    by_cases hc : c = '\n'
    · subst hc
      rw [withReturns_lineFeed, closeLiteral?_cons_eq_none_iff (by decide),
        closeLiteral?_cons_eq_none_iff (by decide)]
      exact ⟨hends.1, Or.inr ⟨hends.2, h.2.imp_right ih⟩⟩
    · rw [withReturns_cons hc, closeLiteral?_cons_eq_none_iff hslash]
      exact ⟨h.1, h.2.imp_right ih⟩

/-- A template may have any line endings. -/
theorem isBody_withReturns (h : IsBody backtick body) : IsBody backtick (withReturns body) := by
  have hreturn : ∀ {t}, IsBody backtick t → IsBody backtick ('\r' :: t) :=
    .char (by decide) (by decide) nofun
  have hfeed : ∀ {t}, IsBody backtick t → IsBody backtick ('\n' :: t) :=
    .char (by decide) (by decide) fun _ => rfl
  induction h with
  | nil => exact .nil
  | @escape c t _ ih =>
    rw [withReturns_cons (by decide)]
    by_cases hc : c = '\n'
    · subst hc
      exact .escape (hfeed ih)
    · rw [withReturns_cons hc]
      exact .escape ih
  | @char c t hslash hne hline _ ih =>
    by_cases hc : c = '\n'
    · subst hc
      exact hreturn (hfeed ih)
    · rw [withReturns_cons hc]
      exact .char hslash hne hline ih

/-- A string with a line feed has it behind a backslash. With the carriage return behind the
backslash, the line feed leaves the string unclosed. -/
theorem closeLiteral?_withReturns_of_isBody (h : IsBody quote body) (hquote : isQuote quote = true)
    (htick : quote ≠ backtick) (hline : '\n' ∈ body) (rest : Text) :
    closeLiteral? quote (withReturns body ++ rest) = none := by
  induction h with
  | nil => cases hline
  | @escape c t _ ih =>
    rw [withReturns_cons (by decide), List.cons_append, closeLiteral?_backslash]
    by_cases hc : c = '\n'
    · subst hc
      exact (closeLiteral?_eq_none_iff hquote).2 (not_closes_lineFeed hquote htick _)
    · rw [withReturns_cons hc, List.cons_append, List.tail_cons]
      refine ih ?_
      rcases List.mem_cons.1 hline with heq | hmem
      · exact absurd heq (by decide)
      · exact (List.mem_cons.1 hmem).resolve_left (Ne.symm hc)
  | @char c t hslash hne hfeed _ ih =>
    have hc : c ≠ '\n' := fun hc => htick (hfeed hc)
    rw [withReturns_cons hc, List.cons_append, closeLiteral?_cons_eq_none_iff hslash]
    exact ⟨hne, Or.inr (ih ((List.mem_cons.1 hline).resolve_left (Ne.symm hc)))⟩

/-- A string that goes on behind the end of a line. -/
def GoesOn (raw : Text) : Prop :=
  (raw.head? = some '\x22' ∨ raw.head? = some '\x27') ∧ '\n' ∈ raw

instance (raw : Text) : Decidable (GoesOn raw) := inferInstanceAs (Decidable (_ ∧ _))

/-- Only literals hold line feeds. -/
theorem Longest.isQuote_of_lineFeed_mem (h : Longest c tail rest) (hline : '\n' ∈ tail) :
    isQuote c = true := by
  have hpart : ∀ {p : Char → Bool} {part rest : Text}, (∀ c, p c = true → isSpace c = false) →
      ExtendsOver p part rest → '\n' ∉ part := by
    intro p part rest hp hextends hmem
    exact absurd (hp _ (hextends.all _ hmem)) (by decide)
  by_contra hquote
  by_cases hdigit : c.isDigit = true
  · obtain ⟨whole, fraction, rfl, hwhole, hfraction⟩ := h.number hdigit
    have hmem := (List.mem_append.1 hline).resolve_left (hpart isSpace_of_isNumberPart hwhole)
    rcases hfraction with ⟨rfl, -⟩ | ⟨d, more, -, rfl, hmore⟩
    · cases hmem
    · exact hpart isSpace_of_isNumberPart hmore ((List.mem_cons.1 hmem).resolve_left (by decide))
  by_cases hstart : isIdentifierStart c = true
  · exact hpart (fun _ => isSpace_of_isIdentifierPart) (h.identifier hstart) hline
  · rcases h.punctuator hquote hdigit hstart with ⟨hmem, -⟩ | ⟨rfl, -⟩
    · cases isSpace_of_mem_operator hmem _ (List.mem_cons_of_mem c hline)
    · cases hline

/-- A lexeme that is no string over several lines is the longest one with other line endings,
too. -/
theorem longest_withReturns (h : Longest c tail rest) (hgo : ¬ GoesOn (c :: tail)) :
    Longest c (withReturns tail) (withReturns rest) := by
  by_cases hline : '\n' ∈ tail
  · have hquote := h.isQuote_of_lineFeed_mem hline
    have htick : c = backtick := by
      have hmem := List.mem_cons_of_mem c hline
      rcases quote_cases hquote with rfl | rfl | rfl
      · rfl
      · exact absurd ⟨Or.inl rfl, hmem⟩ hgo
      · exact absurd ⟨Or.inr rfl, hmem⟩ hgo
    subst htick
    rcases h.literal hquote with ⟨body, hbody, rfl⟩ | rfl
    · have hclosed : withReturns (body ++ [backtick]) = withReturns body ++ [backtick] :=
        withReturns_append body _
      have hbody' := isBody_withReturns hbody
      rw [hclosed]
      refine .of_isQuote hquote (Or.inl ⟨_, hbody', rfl⟩) (iff_of_false (by simp) ?_)
      rw [not_not, List.append_assoc, List.singleton_append]
      exact ⟨_, _, hbody', rfl⟩
    · cases hline
  · rw [Text.withReturns_eq_self hline]
    refine h.congr (showsNoMore_withReturns rest) fun hquote _ hopen => ?_
    rw [← closeLiteral?_eq_none_iff hquote] at hopen ⊢
    exact closeLiteral?_withReturns_of_none hquote hopen

/-- The quote of a string over several lines is left alone. -/
theorem Longest.scan_of_goesOn (h : Longest c tail rest) (hgo : GoesOn (c :: tail)) :
    (scan c (withReturns (tail ++ rest))).1 = [c] := by
  obtain ⟨hhead, hline⟩ := hgo
  simp only [List.head?_cons, Option.some.injEq] at hhead
  have hquote : isQuote c = true := by rcases hhead with rfl | rfl <;> rfl
  have htick : c ≠ backtick := by rcases hhead with rfl | rfl <;> decide
  have hne : '\n' ≠ c := by rcases hhead with rfl | rfl <;> decide
  replace hline := (List.mem_cons.1 hline).resolve_left hne
  rcases h.literal hquote with ⟨body, hbody, rfl⟩ | rfl
  · have hmem : '\n' ∈ body :=
      (List.mem_append.1 hline).resolve_right fun hmem => hne (List.mem_singleton.1 hmem)
    rw [scan_quote hquote, List.append_assoc, withReturns_append,
      closeLiteral?_withReturns_of_isBody hbody hquote htick hmem]
    rfl
  · cases hline

/-! ## Cuts -/

theorem cut?_withReturns_of_none (h : cut? t = none) : cut? (withReturns t) = none := by
  rw [cut?, gap_withReturns, gap_eq_nil_of_cut? h]
  rfl

/-- With other line endings a text is cut in front of the same lexeme. -/
theorem exists_scan_of_cut? (h : cut? t = some x) :
    ∃ c tail, x.raw = c :: tail ∧ c ≠ '\n' ∧ Longest c tail x.rest ∧
      cut? (withReturns t) = some ⟨withReturns x.gap, (scan c (withReturns (tail ++ x.rest))).1,
        (scan c (withReturns (tail ++ x.rest))).2⟩ := by
  obtain ⟨c, r, hgap, hscan⟩ := exists_gap_of_cut? h
  obtain ⟨tail, hraw, hlongest⟩ := exists_longest c r
  have happend := scan_append c r
  have hstart := not_startsGap_gap t
  simp only [hscan] at hraw hlongest happend
  rw [hraw, List.cons_append, List.cons.injEq] at happend
  rw [hgap] at hstart
  have hc : c ≠ '\n' := by
    rintro rfl
    exact hstart (.space (by decide))
  refine ⟨c, tail, hraw, hc, hlongest, cut?_of_gap ?_⟩
  rw [gap_withReturns, hgap, withReturns_cons hc, happend.2]

theorem cut?_withReturns (h : cut? t = some x) (hgo : ¬ GoesOn x.raw) :
    cut? (withReturns t) = some ⟨withReturns x.gap, withReturns x.raw, withReturns x.rest⟩ := by
  obtain ⟨c, tail, hraw, hc, hlongest, hcut⟩ := exists_scan_of_cut? h
  rw [hraw] at hgo
  rw [withReturns_append, (longest_withReturns hlongest hgo).scan_eq] at hcut
  rw [hcut, hraw, withReturns_cons hc]

/-- A string over several lines is cut short. -/
theorem exists_cut?_of_goesOn (h : cut? t = some x) (hgo : GoesOn x.raw) :
    ∃ y, cut? (withReturns t) = some y ∧ y.raw ≠ withReturns x.raw := by
  obtain ⟨c, tail, hraw, hc, hlongest, hcut⟩ := exists_scan_of_cut? h
  rw [hraw] at hgo
  have hscan := hlongest.scan_of_goesOn hgo
  refine ⟨_, hcut, fun heq => ?_⟩
  have hmem := Text.lineFeed_mem_withReturns hgo.2
  rw [← hraw, ← heq, hscan, List.mem_singleton] at hmem
  exact hc hmem.symm

/-- With the same lexemes up to their line endings, no string goes on behind the end of a line. -/
theorem not_goesOn_of_map_raw {offset offset' : Nat}
    (h : (lexemesFrom offset' (withReturns t)).map (·.raw) =
      (lexemesFrom offset t).map fun x => withReturns x.raw) :
    ∀ x ∈ lexemesFrom offset t, ¬ GoesOn x.raw := by
  induction t using cut_induction generalizing offset offset' with
  | nil t hcut =>
    rw [lexemesFrom_of_cut?_none hcut]
    exact List.forall_mem_nil _
  | cons t x hcut ih =>
    rw [lexemesFrom_of_cut?_some hcut, List.map_cons] at h
    have hgo : ¬ GoesOn x.raw := by
      intro hgo
      obtain ⟨y, hy, hne⟩ := exists_cut?_of_goesOn hcut hgo
      rw [lexemesFrom_of_cut?_some hy, List.map_cons, List.cons.injEq] at h
      exact hne h.1
    rw [lexemesFrom_of_cut?_some (cut?_withReturns hcut hgo), List.map_cons, List.cons.injEq] at h
    rw [lexemesFrom_of_cut?_some hcut, List.forall_mem_cons]
    exact ⟨hgo, ih h.2⟩

end Lexicon

/-! ## Places -/

namespace Text

variable {before line rest : Text}

/-- Every text ends with the part of a line that stands behind its last line feed. -/
theorem exists_endsLine_append (t : Text) :
    ∃ before line, before ++ line = t ∧ EndsLine before ∧ '\n' ∉ line := by
  induction t using List.reverseRecOn with
  | nil => exact ⟨[], [], rfl, nofun, List.not_mem_nil⟩
  | append_singleton t c ih =>
    by_cases hc : c = '\n'
    · subst hc
      refine ⟨t ++ ['\n'], [], List.append_nil _, fun d hd => ?_, List.not_mem_nil⟩
      rw [List.getLast?_concat] at hd
      exact (Option.some.inj hd).symm
    · obtain ⟨before, line, rfl, hends, hline⟩ := ih
      refine ⟨before, line ++ [c], (List.append_assoc ..).symm, hends, ?_⟩
      rw [List.mem_append, List.mem_singleton, not_or]
      exact ⟨hline, Ne.symm hc⟩

/-- An offset has one last line feed in front of it. -/
theorem BehindLastLineFeed.start_eq {t : Text} {offset start start' : Nat}
    (h : BehindLastLineFeed t offset start) (h' : BehindLastLineFeed t offset start') :
    start = start' := by
  have hle := h.start_le
  have hle' := h'.start_le
  rcases Nat.lt_trichotomy start start' with hlt | heq | hlt
  · exact absurd (h'.lineFeed (by omega)) (h.last _ (by omega) (by omega))
  · exact heq
  · exact absurd (h.lineFeed (by omega)) (h'.last _ (by omega) (by omega))

theorem behindLastLineFeed_append (hends : EndsLine before) (hline : '\n' ∉ line) (rest : Text) :
    BehindLastLineFeed (before ++ line ++ rest) (units (before ++ line)) (units before) where
  start_le := by
    rw [units_append]
    exact Nat.le_add_right _ _
  lineFeed hpos := by
    have hne : before ≠ [] := by
      rintro rfl
      exact Nat.lt_irrefl 0 hpos
    have hlength : (codeUnits before).length = units before := rfl
    rw [List.append_assoc, codeUnits_append, ← hlength,
      List.getElem?_append_left (Nat.sub_lt hpos Nat.one_pos), ← List.getLast?_eq_getElem?,
      hends.getLast?_codeUnits hne]
  last i hi hlt hfeed := by
    rw [units_append] at hlt
    rw [List.append_assoc, codeUnits_append, codeUnits_append, List.getElem?_append_right hi,
      List.getElem?_append_left (by show _ < units line; show i - units before < _; omega)] at hfeed
    exact lineFeed_not_mem_codeUnits hline (List.mem_of_getElem? hfeed)

end Text

/-- A token with other line endings, at the same place. -/
def Token.withReturns (token : Token) : Token := { token with raw := Text.withReturns token.raw }

namespace Source

open Text (units withReturns withReturns_append)

variable {before line rest t whole : Text}

/-- The place of a lexeme, told from the text in front of it. -/
theorem tokenOf_append (hends : Text.EndsLine before) (hline : '\n' ∉ line) (hrest : rest ≠ [])
    (raw : Text) :
    tokenOf (lineOffsets (before ++ line ++ rest)) ⟨raw, units (before ++ line)⟩ =
      ⟨raw, before.count '\n' + 1, units line⟩ := by
  have hlt : units (before ++ line) < units (before ++ line ++ rest) := by
    rw [Text.units_append (before ++ line)]
    exact Nat.lt_add_of_pos_right (Text.units_pos hrest)
  obtain ⟨index, honline, htoken⟩ :=
    exists_places_tokenOf (x := ⟨raw, units (before ++ line)⟩) hlt
  obtain ⟨hcount, hbehind⟩ := honline.behindLastLineFeed
  dsimp only at htoken hcount hbehind
  have hunits : Text.unitsBefore (before ++ line ++ rest) (units (before ++ line)) =
      Text.codeUnits (before ++ line) := by
    rw [Text.unitsBefore, Text.codeUnits_append (before ++ line)]
    exact List.take_left
  rw [hunits, Text.count_codeUnits, List.count_append, List.count_eq_zero.2 hline] at hcount
  rw [htoken, hbehind.start_eq (Text.behindLastLineFeed_append hends hline rest), ← hcount,
    Text.units_append, Nat.add_zero, Int.natCast_add, Int.add_comm (units before),
    Int.add_sub_cancel]

/-- Other line endings leave the line and the column of a lexeme as they are. -/
theorem tokenOf_withReturns (before : Text) (hrest : rest ≠ []) (raw raw' : Text) :
    tokenOf (lineOffsets (withReturns (before ++ rest))) ⟨raw', units (withReturns before)⟩ =
      { tokenOf (lineOffsets (before ++ rest)) ⟨raw, units before⟩ with raw := raw' } := by
  obtain ⟨before, line, rfl, hends, hline⟩ := Text.exists_endsLine_append before
  have hrest' : withReturns rest ≠ [] := by
    induction rest using Text.lineFeed_induction with
    | nil => exact absurd rfl hrest
    | lineFeed rest => exact List.cons_ne_nil _ _
    | char c rest hc =>
      rw [Text.withReturns_cons hc]
      exact List.cons_ne_nil _ _
  rw [tokenOf_append hends hline hrest, withReturns_append, withReturns_append,
    Text.withReturns_eq_self hline, tokenOf_append hends.withReturns hline hrest',
    Text.count_lineFeed_withReturns]

/-- The tokens of a text behind another one, when none of them is a string over several lines. -/
theorem map_tokenOf_withReturns (happend : before ++ t = whole)
    (h : ∀ x ∈ Lexicon.lexemesFrom (units before) t, ¬ Lexicon.GoesOn x.raw) :
    (Lexicon.lexemesFrom (units (withReturns before)) (withReturns t)).map
        (tokenOf (lineOffsets (withReturns whole))) =
      ((Lexicon.lexemesFrom (units before) t).map (tokenOf (lineOffsets whole))).map
        Token.withReturns := by
  induction t using Lexicon.cut_induction generalizing before with
  | nil t hcut =>
    rw [Lexicon.lexemesFrom_of_cut?_none hcut,
      Lexicon.lexemesFrom_of_cut?_none (Lexicon.cut?_withReturns_of_none hcut)]
    rfl
  | cons t x hcut ih =>
    rw [Lexicon.lexemesFrom_of_cut?_some hcut, List.forall_mem_cons] at h
    have hraw := Lexicon.append_of_cut? hcut
    have hne := Lexicon.raw_ne_nil_of_cut? hcut
    have hlater : before ++ x.gap ++ x.raw ++ x.rest = whole := by
      rw [← happend, ← hraw]
      simp
    have hih := ih hlater
    have hhere : before ++ x.gap ++ (x.raw ++ x.rest) = whole := by
      rw [← hlater, List.append_assoc _ x.raw]
    have hplace := tokenOf_withReturns (before ++ x.gap)
      (List.append_ne_nil_of_left_ne_nil hne x.rest) x.raw (withReturns x.raw)
    rw [hhere] at hplace
    simp only [Text.units_append, withReturns_append] at hih hplace h
    rw [Lexicon.lexemesFrom_of_cut?_some hcut,
      Lexicon.lexemesFrom_of_cut?_some (Lexicon.cut?_withReturns hcut h.1), List.map_cons,
      List.map_cons, List.map_cons, hih h.2, hplace]
    rfl

/-- **Line endings do not matter outside of strings.**  With a carriage return in front of each
line feed, a source has the same tokens at the same lines and columns, up to the line endings in
them, exactly where none of them is a string that goes on behind the end of a line. -/
theorem tokensBy_withReturns_iff (size : GroupSize) (source : Text) :
    tokensBy size (withReturns source) = (tokensBy size source).map Token.withReturns ↔
      ∀ token ∈ tokensBy size source, ¬ Lexicon.GoesOn token.raw := by
  have hraw : ∀ (starts : Array Nat) (xs : List Lexeme),
      (xs.map (tokenOf starts)).map (·.raw) = xs.map (·.raw) := by
    intro starts xs
    rw [List.map_map]
    rfl
  rw [tokensBy, tokensBy, groupedLexemes_eq_lexemes, groupedLexemes_eq_lexemes,
    Text.dropMark_withReturns, List.forall_mem_map]
  constructor
  · intro h
    have hraws := congrArg (List.map (·.raw)) h
    rw [hraw, List.map_map, List.map_map] at hraws
    exact Lexicon.not_goesOn_of_map_raw hraws
  · exact map_tokenOf_withReturns (List.nil_append _)

/-- A string that goes on behind a backslash, with a name on its second line. -/
def continued : Text := "\x22a\\\nb\x22 c"

/-- With carriage returns this string is no token any more. -/
theorem not_forall_tokens_withReturns :
    ¬ ∀ source : Text, '\r' ∉ source →
      tokens (withReturns source) = (tokens source).map Token.withReturns := by
  intro h
  have htokens := h continued (by decide)
  rw [tokens, tokens, tokensBy, tokensBy, groupedLexemes_eq_lexemes,
    groupedLexemes_eq_lexemes] at htokens
  exact absurd htokens (by decide +kernel)

end Source

end DiagnosticHints
