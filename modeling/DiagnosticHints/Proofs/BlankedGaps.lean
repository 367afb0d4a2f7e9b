import DiagnosticHints.Proofs.ExactPlaces
import DiagnosticHints.Proofs.LexemesAlone

/-!
# Comments are white space

A text whose gaps are made blank, unit by unit and with their line feeds left, has the same tokens
at the same places. Blanking a comment takes quotes, backslashes and ends of comments out of the
text that an earlier quote, or an earlier opening of a comment, was scanned through in vain. Nothing
is closed by that: a comment does not end with a backslash, so that behind it the scan goes on where
it went on before, and no line feed in it is less of an end than before.
-/

namespace DiagnosticHints

namespace Lexicon

variable {c quote : Char} {t t' v w s g space rest : Text}

/-! ## Blanks -/

/-- As many spaces as a character has units, or the line feed itself. -/
def blankChar (c : Char) : Text :=
  if c = '\n' then ['\n'] else List.replicate (Text.charUnits c).length ' '

/-- The blanks in place of a text. -/
def blank (t : Text) : Text := t.flatMap blankChar

/-- A text with blanks in place of its gaps. -/
def blankGaps (t : Text) : Text :=
  match h : cut? t with
  | none => blank t
  | some x =>
    have : x.rest.length < t.length := length_lt_of_cut? h
    blank x.gap ++ (x.raw ++ blankGaps x.rest)
termination_by t.length
decreasing_by assumption

theorem blankGaps_of_cut?_none (h : cut? t = none) : blankGaps t = blank t := by
  rw [blankGaps]
  split
  · rfl
  · next x hx => rw [h] at hx; cases hx

theorem blankGaps_of_cut?_some {x : Cut} (h : cut? t = some x) :
    blankGaps t = blank x.gap ++ (x.raw ++ blankGaps x.rest) := by
  rw [blankGaps]
  split
  · next hx => rw [h] at hx; cases hx
  · next y hy => rw [h] at hy; cases hy; rfl

theorem blank_cons (c : Char) (t : Text) : blank (c :: t) = blankChar c ++ blank t :=
  List.flatMap_cons

theorem blank_append (a b : Text) : blank (a ++ b) = blank a ++ blank b :=
  List.flatMap_append

theorem blankChar_of_ne (hc : c ≠ '\n') :
    blankChar c = List.replicate (Text.charUnits c).length ' ' :=
  if_neg hc

theorem exists_blankChar (c : Char) : ∃ d space, blankChar c = d :: space := by
  by_cases hc : c = '\n'
  · exact ⟨'\n', [], if_pos hc⟩
  · obtain ⟨k, hk⟩ := Nat.exists_eq_succ_of_ne_zero (Text.charUnits_length_pos c).ne'
    exact ⟨' ', List.replicate k ' ', by rw [blankChar_of_ne hc, hk, List.replicate_succ]⟩

theorem isSpace_of_mem_blankChar {d : Char} (h : d ∈ blankChar c) : isSpace d = true := by
  by_cases hc : c = '\n'
  · subst hc
    obtain rfl := List.mem_singleton.1 h
    rfl
  · rw [blankChar_of_ne hc] at h
    rw [List.eq_of_mem_replicate h]
    rfl

theorem isSpace_of_mem_blank : ∀ d ∈ blank t, isSpace d = true := by
  intro d hd
  obtain ⟨c, -, hc⟩ := List.mem_flatMap.1 hd
  exact isSpace_of_mem_blankChar hc

theorem lineFeed_mem_blank (h : '\n' ∈ t) : '\n' ∈ blank t :=
  List.mem_flatMap.2 ⟨'\n', h, List.mem_singleton_self _⟩

/-! ## What blanks show -/

/-- Some characters of a text are made blank. -/
inductive Blanked : Text → Text → Prop
  | nil : Blanked [] []
  | keep {c : Char} {t t' : Text} : Blanked t t' → Blanked (c :: t) (c :: t')
  | blank {c : Char} {t t' : Text} : Blanked t t' → Blanked (c :: t) (blankChar c ++ t')

theorem Blanked.showsNoMore (h : Blanked t t') : ShowsNoMore t' t := by
  induction h with
  | nil => exact showsNoMore_nil []
  | @keep c t t' _ ih => exact ih.append [c]
  | @blank c t t' _ _ =>
    obtain ⟨d, space, hblank⟩ := exists_blankChar c
    have hd : isSpace d = true := isSpace_of_mem_blankChar (c := c) (by rw [hblank]; simp)
    rw [hblank]
    exact showsNoMore_space hd _ _

theorem Blanked.of_cons (hc : ¬ isSpace c = true) (h : Blanked (c :: t) (c :: t')) :
    Blanked t t' := by
  generalize hcons : c :: t' = u' at h
  cases h with
  | keep h =>
    obtain rfl := (List.cons.inj hcons).2
    exact h
  | blank h =>
    obtain ⟨d, space, hblank⟩ := exists_blankChar c
    rw [hblank] at hcons
    obtain rfl : c = d := (List.cons.inj hcons).1
    exact absurd (isSpace_of_mem_blankChar (c := c) (by rw [hblank]; exact List.mem_cons_self)) hc

/-- Blanks close no comment. -/
theorem Blanked.closes_comment (h : Blanked t t') (hin : ['*', '/'] <:+: t') :
    ['*', '/'] <:+: t := by
  induction h with
  | nil => exact hin
  | @keep c t t' hrest ih =>
    rw [List.infix_cons_iff] at hin ⊢
    refine hin.imp (fun hword => ?_) ih
    have hmarks : ∀ c ∈ ['*', '/'], isSpace c = false :=
      List.forall_mem_cons.2 ⟨rfl, List.forall_mem_singleton.2 rfl⟩
    exact hrest.keep.showsNoMore _ hmarks hword
  | @blank c t t' _ ih =>
    have hstar : '*' ∉ blankChar c := fun hmem => by cases isSpace_of_mem_blankChar hmem
    exact (ih (Text.infix_of_infix_append hstar hin)).trans (List.suffix_cons c t).isInfix

theorem units_blankChar (c : Char) : Text.units (blankChar c) = (Text.charUnits c).length := by
  by_cases hc : c = '\n'
  · subst hc
    rfl
  · rw [blankChar_of_ne hc]
    induction (Text.charUnits c).length with
    | zero => rfl
    | succ k ih => rw [List.replicate_succ, Text.units_cons, ih, Nat.add_comm]; rfl

/-- Blanks leave the offsets of all characters as they are. -/
theorem Blanked.units_eq (h : Blanked t t') : Text.units t' = Text.units t := by
  induction h with
  | nil => rfl
  | keep _ ih => rw [Text.units_cons, Text.units_cons, ih]
  | blank _ ih => rw [Text.units_append, units_blankChar, Text.units_cons, ih]

theorem lineOffsetsFrom_spaces (offset k : Nat) (t : Text) :
    Source.lineOffsetsFrom offset (List.replicate k ' ' ++ t) =
      Source.lineOffsetsFrom (offset + k) t := by
  induction k generalizing offset with
  | zero => rfl
  | succ k ih =>
    have hspace : (Text.charUnits ' ').length = 1 := rfl
    rw [List.replicate_succ, List.cons_append, Source.lineOffsetsFrom, if_neg (by decide), ih,
      hspace, Nat.add_assoc, Nat.add_comm 1]

theorem lineOffsetsFrom_blankChar (offset : Nat) (c : Char) (t : Text) :
    Source.lineOffsetsFrom offset (blankChar c ++ t) = Source.lineOffsetsFrom offset (c :: t) := by
  by_cases hc : c = '\n'
  · subst hc
    rfl
  · rw [blankChar_of_ne hc, lineOffsetsFrom_spaces, Source.lineOffsetsFrom, if_neg hc]

/-- Blanks leave the starts of all lines as they are. -/
theorem Blanked.lineOffsetsFrom_eq (h : Blanked t t') (offset : Nat) :
    Source.lineOffsetsFrom offset t' = Source.lineOffsetsFrom offset t := by
  induction h generalizing offset with
  | nil => rfl
  | keep _ ih => simp only [Source.lineOffsetsFrom, ih]
  | blank _ ih => rw [lineOffsetsFrom_blankChar]; simp only [Source.lineOffsetsFrom, ih]

theorem Blanked.refl (t : Text) : Blanked t t := by
  induction t with
  | nil => exact .nil
  | cons c t ih => exact ih.keep

theorem Blanked.append {a a' : Text} (ha : Blanked a a') (h : Blanked t t') :
    Blanked (a ++ t) (a' ++ t') := by
  induction ha with
  | nil => exact h
  | keep _ ih => exact ih.keep
  | blank _ ih =>
    rw [List.append_assoc]
    exact ih.blank

theorem blanked_blank (t : Text) : Blanked t (blank t) := by
  induction t with
  | nil => exact .nil
  | cons c t ih =>
    rw [blank_cons]
    exact ih.blank

theorem blanked_blankGaps (t : Text) : Blanked t (blankGaps t) := by
  induction t using cut_induction with
  | nil t h =>
    rw [blankGaps_of_cut?_none h]
    exact blanked_blank t
  | cons t x h ih =>
    rw [blankGaps_of_cut?_some h, ← append_of_cut? h, List.append_assoc]
    exact (blanked_blank x.gap).append ((Blanked.refl x.raw).append ih)

/-! ## Scanning for the end of a literal -/

theorem closeLiteral?_backslash (quote : Char) (t : Text) :
    closeLiteral? quote ('\\' :: t) = none ↔ closeLiteral? quote t.tail = none := by
  cases t with
  | nil => exact Iff.rfl
  | cons c t => rw [closeLiteral?_escape, Option.map_eq_none_iff, List.tail_cons]

theorem closeLiteral?_cons_eq_none_iff (hc : c ≠ '\\') :
    closeLiteral? quote (c :: t) = none ↔
      c ≠ quote ∧ ((c = '\n' ∧ quote ≠ backtick) ∨ closeLiteral? quote t = none) := by
  rw [closeLiteral?_of_ne hc]
  split_ifs with hquote hline
  · exact iff_of_false id fun h => h.1 hquote
  · exact iff_of_true rfl ⟨hquote, Or.inl hline⟩
  · rw [Option.map_eq_none_iff]
    exact ⟨fun h => ⟨hquote, Or.inr h⟩, fun h => h.2.resolve_left hline⟩

/-- What stands in front of a text decides only whether the scan enters it at its first character
or, behind a backslash, at the second one. -/
theorem closeLiteral?_append_congr {u u' : Text}
    (h : closeLiteral? quote u = none → closeLiteral? quote u' = none)
    (htail : closeLiteral? quote u.tail = none → closeLiteral? quote u'.tail = none) (v : Text) :
    closeLiteral? quote (v ++ u) = none → closeLiteral? quote (v ++ u') = none := by
  induction v using literal_induction with
  | nil => exact h
  | lone =>
    rw [List.singleton_append, List.singleton_append, closeLiteral?_backslash,
      closeLiteral?_backslash]
    exact htail
  | escape c v ih =>
    simp only [List.cons_append, closeLiteral?_backslash, List.tail_cons]
    exact ih
  | char c v hc ih =>
    rw [List.cons_append, List.cons_append, closeLiteral?_cons_eq_none_iff hc,
      closeLiteral?_cons_eq_none_iff hc]
    exact And.imp_right (Or.imp_right ih)

/-- A scan that passes a text without an end goes on behind it, at the first character or at the
second one. -/
theorem closeLiteral?_of_append {u : Text} (hv : '\n' ∈ v → quote = backtick)
    (h : closeLiteral? quote (v ++ u) = none) :
    closeLiteral? quote u = none ∨ closeLiteral? quote u.tail = none := by
  induction v using literal_induction with
  | nil => exact Or.inl h
  | lone => exact Or.inr ((closeLiteral?_backslash quote u).1 h)
  | escape c v ih =>
    simp only [List.cons_append, closeLiteral?_backslash, List.tail_cons] at h
    exact ih (fun hmem => hv (by simp [hmem])) h
  | char c v hc ih =>
    rw [List.cons_append, closeLiteral?_cons_eq_none_iff hc] at h
    rcases h.2 with ⟨rfl, htick⟩ | h
    · exact absurd (hv List.mem_cons_self) htick
    · exact ih (fun hmem => hv (List.mem_cons_of_mem c hmem)) h

/-- White space closes nothing, and a line feed in it ends a string unclosed. -/
theorem closeLiteral?_append_of_isSpace {u : Text} (hquote : isQuote quote = true)
    (hspace : ∀ c ∈ space, isSpace c = true)
    (h : ('\n' ∈ space ∧ quote ≠ backtick) ∨ closeLiteral? quote u = none) :
    closeLiteral? quote (space ++ u) = none := by
  induction space with
  | nil => exact h.resolve_left fun h => List.not_mem_nil h.1
  | cons c space ih =>
    rw [List.forall_mem_cons] at hspace
    have hc : c ≠ '\\' := by
      rintro rfl
      cases hspace.1
    have hne : c ≠ quote := by
      rintro rfl
      exact not_isSpace_of_isQuote hquote hspace.1
    rw [List.cons_append, closeLiteral?_cons_eq_none_iff hc]
    refine ⟨hne, ?_⟩
    by_cases hline : c = '\n' ∧ quote ≠ backtick
    · exact Or.inl hline
    · refine Or.inr (ih hspace.2 (h.imp_left fun ⟨hmem, htick⟩ => ⟨?_, htick⟩))
      exact (List.mem_cons.1 hmem).resolve_left fun heq => hline ⟨heq.symm, htick⟩

/-- A piece of a gap is made blank, if the scan that enters it behind its first character leaves
it at its end. -/
theorem closeLiteral?_blank {u : Text} (hquote : isQuote quote = true) (hc : c ≠ '\\')
    (hleave : closeLiteral? quote (w ++ u) = none →
      ('\n' ∈ w ∧ quote ≠ backtick) ∨ closeLiteral? quote u = none) (v : Text)
    (h : closeLiteral? quote (v ++ (c :: w ++ u)) = none) :
    closeLiteral? quote (v ++ (blank (c :: w) ++ u)) = none := by
  refine closeLiteral?_append_congr (fun h => ?_) (fun h => ?_) v h
  · rw [List.cons_append, closeLiteral?_cons_eq_none_iff hc] at h
    refine closeLiteral?_append_of_isSpace hquote isSpace_of_mem_blank ?_
    rcases h.2 with ⟨rfl, htick⟩ | h
    · exact Or.inl ⟨lineFeed_mem_blank List.mem_cons_self, htick⟩
    · exact (hleave h).imp_left fun ⟨hmem, htick⟩ =>
        ⟨lineFeed_mem_blank (List.mem_cons_of_mem c hmem), htick⟩
  · obtain ⟨d, space, hblank⟩ := exists_blankChar c
    have hspace : ∀ e ∈ space ++ blank w, isSpace e = true := fun e he => by
      rcases List.mem_append.1 he with he | he
      · exact isSpace_of_mem_blankChar (by rw [hblank]; exact List.mem_cons_of_mem d he)
      · exact isSpace_of_mem_blank e he
    rw [blank_cons, hblank, List.append_assoc, List.cons_append, List.tail_cons,
      ← List.append_assoc]
    refine closeLiteral?_append_of_isSpace hquote hspace ?_
    exact (hleave h).imp_left fun ⟨hmem, htick⟩ =>
      ⟨List.mem_append_right space (lineFeed_mem_blank hmem), htick⟩

/-- One more piece of a gap is made blank, in front of a rest that is blank already. -/
theorem closeLiteral?_blank_append {u : Text} (hquote : isQuote quote = true) (hc : c ≠ '\\')
    (hleave : closeLiteral? quote (w ++ (blank g ++ u)) = none →
      ('\n' ∈ w ∧ quote ≠ backtick) ∨ closeLiteral? quote (blank g ++ u) = none)
    (hrest : ∀ v, closeLiteral? quote (v ++ (g ++ u)) = none →
      closeLiteral? quote (v ++ (blank g ++ u)) = none) (v : Text)
    (h : closeLiteral? quote (v ++ (c :: w ++ g ++ u)) = none) :
    closeLiteral? quote (v ++ (blank (c :: w ++ g) ++ u)) = none := by
  rw [List.append_assoc, ← List.append_assoc v] at h
  have hblank := hrest _ h
  rw [List.append_assoc] at hblank
  rw [blank_append, List.append_assoc]
  exact closeLiteral?_blank hquote hc hleave v hblank

theorem closeLiteral?_of_cons (hc : c ≠ '\\') (hline : c ≠ '\n')
    (h : closeLiteral? quote (c :: t) = none) : closeLiteral? quote t = none :=
  ((closeLiteral?_cons_eq_none_iff hc).1 h).2.resolve_left fun h => hline h.1

theorem closeLiteral?_of_tail (hquote : isQuote quote = true) (hhead : ∀ c ∈ t.head?, c = '\n')
    (h : closeLiteral? quote t.tail = none) : closeLiteral? quote t = none := by
  cases t with
  | nil => rfl
  | cons c t =>
    obtain rfl := hhead c rfl
    have hne : '\n' ≠ quote := by
      rintro rfl
      cases hquote
    exact (closeLiteral?_cons_eq_none_iff (by decide)).2 ⟨hne, Or.inr h⟩

theorem head?_blank_append {u : Text} (h : ∀ c ∈ (g ++ u).head?, c = '\n') :
    ∀ c ∈ (blank g ++ u).head?, c = '\n' := by
  cases g with
  | nil => exact h
  | cons d g =>
    obtain rfl := h d rfl
    intro c hc
    exact (Option.some.inj hc).symm

/-- A scan that finds no end finds none when a gap on its way is made blank. -/
theorem IsGap.closeLiteral?_blank {u : Text} (hquote : isQuote quote = true) (hg : IsGap u g)
    (v : Text) (h : closeLiteral? quote (v ++ (g ++ u)) = none) :
    closeLiteral? quote (v ++ (blank g ++ u)) = none := by
  induction hg generalizing v with
  | nil => exact h
  | @space c g hc _ ih =>
    have hslash : c ≠ '\\' := by
      rintro rfl
      exact absurd hc (by decide)
    exact closeLiteral?_blank_append (w := []) hquote hslash Or.inr ih v h
  | @line body g hbody hhead _ ih =>
    refine closeLiteral?_blank_append (w := '/' :: body) hquote (by decide)
      (fun h => Or.inr ?_) ih v h
    have hfeed : '\n' ∈ '/' :: body → quote = backtick := fun hmem =>
      absurd ((List.mem_cons.1 hmem).resolve_left (by decide)) hbody
    rcases closeLiteral?_of_append hfeed h with h | h
    · exact h
    · exact closeLiteral?_of_tail hquote (head?_blank_append hhead) h
  | @block body g _ _ ih =>
    have hshape : '/' :: '*' :: (body ++ '*' :: '/' :: g) =
        '/' :: ('*' :: body ++ ['*', '/']) ++ g := by simp
    rw [hshape] at h ⊢
    refine closeLiteral?_blank_append hquote (by decide) (fun h => ?_) ih v h
    by_cases hfeed : '\n' ∈ '*' :: body ++ ['*', '/'] ∧ quote ≠ backtick
    · exact Or.inl hfeed
    · refine Or.inr ?_
      have hpass : '\n' ∈ '*' :: body → quote = backtick := fun hmem => by
        by_contra hne
        exact hfeed ⟨List.mem_append_left _ hmem, hne⟩
      rw [List.append_assoc] at h
      rcases closeLiteral?_of_append hpass h with h | h
      · exact closeLiteral?_of_cons (by decide) (by decide)
          (closeLiteral?_of_cons (by decide) (by decide) h)
      · exact closeLiteral?_of_cons (by decide) (by decide) h

/-- A scan that finds no end in a text finds none when all gaps of the text are made blank. -/
theorem closeLiteral?_blankGaps (hquote : isQuote quote = true) (t v : Text)
    (h : closeLiteral? quote (v ++ t) = none) : closeLiteral? quote (v ++ blankGaps t) = none := by
  induction t using cut_induction generalizing v with
  | nil t hcut =>
    rw [blankGaps_of_cut?_none hcut]
    have hgap := (isGap_of_cut?_none hcut).closeLiteral?_blank hquote v
    rw [List.append_nil, List.append_nil] at hgap
    exact hgap h
  | cons t x hcut ih =>
    rw [blankGaps_of_cut?_some hcut]
    rw [← append_of_cut? hcut, List.append_assoc] at h
    have hgap := (isGap_of_cut? hcut).1.closeLiteral?_blank hquote v h
    have hrest := ih (v ++ (blank x.gap ++ x.raw)) (by simpa using hgap)
    simpa using hrest

/-! ## Lexemes between blanks -/

/-- The lexeme in front of a text is the same when the gaps behind it are made blank. -/
theorem cut?_raw_append_blankGaps {x : Cut} (h : cut? t = some x) :
    cut? (x.raw ++ blankGaps x.rest) = some ⟨[], x.raw, blankGaps x.rest⟩ := by
  obtain ⟨c, tail, hraw, hlongest, hstart⟩ := exists_longest_of_cut? h
  rw [hraw]
  have hblanked := blanked_blankGaps x.rest
  have hopen : isQuote c = true → tail = [] → ¬ Closes c x.rest →
      ¬ Closes c (blankGaps x.rest) := by
    rintro hquote -
    rw [← closeLiteral?_eq_none_iff hquote, ← closeLiteral?_eq_none_iff hquote]
    exact closeLiteral?_blankGaps hquote x.rest []
  refine (hlongest.congr hblanked.showsNoMore hopen).cut?_eq
    (hlongest.not_startsGap hstart hblanked.showsNoMore ?_)
  intro u' u hu' hu hin
  rw [hu', hu] at hblanked
  exact (hblanked.of_cons (by decide)).closes_comment hin

/-- A text with blanks in place of its gaps has the same lexemes at the same offsets. -/
theorem lexemesFrom_blankGaps (offset : Nat) (t : Text) :
    lexemesFrom offset (blankGaps t) = lexemesFrom offset t := by
  induction t using cut_induction generalizing offset with
  | nil t h =>
    have hspace := lexemesFrom_append_of_isSpace (isSpace_of_mem_blank (t := t)) offset []
    rw [List.append_nil, lexemesFrom_nil] at hspace
    rw [blankGaps_of_cut?_none h, hspace, lexemesFrom_of_cut?_none h]
  | cons t x h ih =>
    rw [blankGaps_of_cut?_some h, lexemesFrom_append_of_isSpace isSpace_of_mem_blank,
      lexemesFrom_of_cut?_some (cut?_raw_append_blankGaps h), lexemesFrom_of_cut?_some h, ih,
      (blanked_blank x.gap).units_eq]
    rfl

/-! ## The units of blanks -/

/-- The unit in place of a unit at an offset: a space, unless the unit is a line feed or belongs to
a lexeme. -/
def blankUnit (xs : List Lexeme) (offset unit : Nat) : Nat :=
  if unit = 10 ∨ ∃ x ∈ xs, Source.Holds x offset then unit else 0x20

variable {xs : List Lexeme} {x : Lexeme} {offset : Nat}

theorem blankUnit_of_forall_not (h : ∀ x ∈ xs, ¬ Source.Holds x offset) :
    blankUnit xs offset = fun unit => if unit = 10 then unit else 0x20 := by
  have hnot : ¬ ∃ x ∈ xs, Source.Holds x offset := fun ⟨x, hx, hholds⟩ => h x hx hholds
  funext unit
  simp only [blankUnit, hnot, or_false]

theorem blankUnit_of_lt {start : Nat} (h : ∀ x ∈ xs, start ≤ x.offset) (hlt : offset < start) :
    blankUnit xs offset = fun unit => if unit = 10 then unit else 0x20 :=
  blankUnit_of_forall_not fun x hx hholds =>
    absurd (Nat.lt_of_le_of_lt hholds.1 hlt) (Nat.not_lt.2 (h x hx))

theorem blankUnit_of_holds (hx : x ∈ xs) (h : Source.Holds x offset) :
    blankUnit xs offset = id := by
  funext unit
  exact if_pos (Or.inr ⟨x, hx, h⟩)

theorem blankUnit_cons_of_not_holds (h : ¬ Source.Holds x offset) :
    blankUnit (x :: xs) offset = blankUnit xs offset := by
  funext unit
  simp only [blankUnit, List.exists_mem_cons_iff, h, false_or]

theorem codeUnits_blankChar (c : Char) :
    Text.codeUnits (blankChar c) = (Text.charUnits c).map fun u => if u = 10 then u else 0x20 := by
  by_cases hc : c = '\n'
  · subst hc
    rfl
  · have hfeed : ∀ u ∈ Text.charUnits c, u ≠ 10 := by
      rintro u hu rfl
      have hcount := Text.count_charUnits c
      rw [if_neg hc, List.count_eq_zero] at hcount
      exact hcount hu
    rw [blankChar_of_ne hc, List.map_congr_left fun u hu => if_neg (hfeed u hu), List.map_const',
      Text.codeUnits, List.flatMap_replicate]
    exact List.flatten_replicate_singleton

theorem codeUnits_blank (t : Text) :
    Text.codeUnits (blank t) = (Text.codeUnits t).map fun u => if u = 10 then u else 0x20 := by
  induction t with
  | nil => rfl
  | cons c t ih =>
    rw [blank_cons, Text.codeUnits_append, codeUnits_blankChar, ih, ← List.map_append]
    rfl

/-- Every unit outside of the lexemes of a text, line feeds apart, is a space in its place. -/
theorem getElem?_codeUnits_blankGaps {whole before : Text} (happend : before ++ t = whole)
    (i : Nat) :
    (Text.codeUnits (blankGaps t))[i]? = (Text.codeUnits t)[i]?.map
      (blankUnit (lexemesFrom (Text.units before) t) (Text.units before + i)) := by
  induction t using cut_induction generalizing before i with
  | nil t h =>
    have hnone : blankUnit [] (Text.units before + i) =
        fun unit => if unit = 10 then unit else 0x20 :=
      blankUnit_of_forall_not (List.forall_mem_nil _)
    rw [blankGaps_of_cut?_none h, codeUnits_blank, lexemesFrom_of_cut?_none h, List.getElem?_map,
      hnone]
  | cons t x h ih =>
    have hcut := append_of_cut? h
    have hrest : before ++ x.gap ++ x.raw ++ x.rest = whole := by
      rw [← happend, ← hcut]
      simp
    have hlater := (segmentation_lexemesFrom hrest).start_le
    have hih := ih hrest (i - Text.units x.gap - Text.units x.raw)
    rw [Text.units_append, Text.units_append] at hlater hih
    rw [blankGaps_of_cut?_some h, lexemesFrom_of_cut?_some h, ← hcut]
    simp only [Text.codeUnits_append, List.append_assoc]
    have hgap : (Text.codeUnits (blank x.gap)).length = Text.units x.gap :=
      (blanked_blank x.gap).units_eq
    have hgap' : (Text.codeUnits x.gap).length = Text.units x.gap := rfl
    have hraw : (Text.codeUnits x.raw).length = Text.units x.raw := rfl
    simp only [List.getElem?_append, hgap, hgap', hraw]
    split_ifs with hi hj
    · have hstart : ∀ y ∈ (⟨x.raw, Text.units before + Text.units x.gap⟩ : Lexeme) ::
          lexemesFrom (Text.units before + Text.units x.gap + Text.units x.raw) x.rest,
          Text.units before + Text.units x.gap ≤ y.offset :=
        List.forall_mem_cons.2 ⟨Nat.le_refl _, fun y hy => Nat.le_of_add_right_le (hlater y hy)⟩
      rw [blankUnit_of_lt hstart (Nat.add_lt_add_left hi _), codeUnits_blank, List.getElem?_map]
    · have hholds : Source.Holds ⟨x.raw, Text.units before + Text.units x.gap⟩
          (Text.units before + i) := Source.holds_mk.2 (by omega)
      rw [blankUnit_of_holds List.mem_cons_self hholds, Option.map_id_apply]
    · have hnot : ¬ Source.Holds ⟨x.raw, Text.units before + Text.units x.gap⟩
          (Text.units before + i) := fun hholds => by
        rw [Source.holds_mk] at hholds
        omega
      rw [blankUnit_cons_of_not_holds hnot, hih]
      congr 2
      omega

/-! ## Tokens -/

theorem scan_mark (t : Text) : scan Text.byteOrderMark t = ([Text.byteOrderMark], t) := by
  have hhead : ∀ operator ∈ operators, operator.head?.all (· == Text.byteOrderMark) = false := by
    decide +kernel
  rw [scan_punctuator (by decide) (by decide) (by decide +kernel)]
  refine punctuator_of_forall_not fun operator hmem hword => ?_
  have hhead := hhead operator hmem
  cases operator with
  | nil => cases hhead
  | cons c tail =>
    obtain rfl := (List.cons_prefix_cons.1 hword).1
    cases hhead

/-- A byte order mark in front is a lexeme, so it stays. -/
theorem blankGaps_mark (t : Text) :
    blankGaps (Text.byteOrderMark :: t) = Text.byteOrderMark :: blankGaps t := by
  have hgap : gap (Text.byteOrderMark :: t) = ([], Text.byteOrderMark :: t) :=
    gap_of_comment?_none (by decide) rfl
  have hcut := cut?_of_gap hgap
  rw [scan_mark] at hcut
  rw [blankGaps_of_cut?_some hcut]
  rfl

theorem dropMark_blankGaps (t : Text) :
    Text.dropMark (blankGaps t) = blankGaps (Text.dropMark t) := by
  cases t with
  | nil =>
    have hnil : blankGaps [] = [] := blankGaps_of_cut?_none (by rw [cut?, gap])
    rw [hnil, Text.dropMark, hnil]
  | cons c t =>
    by_cases hc : c = Text.byteOrderMark
    · subst hc
      rw [blankGaps_mark, Text.dropMark, if_pos rfl, Text.dropMark, if_pos rfl]
    · have hblanked := blanked_blankGaps (c :: t)
      rw [Text.dropMark, if_neg hc]
      generalize blankGaps (c :: t) = t' at hblanked
      cases hblanked with
      | keep _ => rw [Text.dropMark, if_neg hc]
      | blank _ =>
        obtain ⟨d, space, hblank⟩ := exists_blankChar c
        have hd : d ≠ Text.byteOrderMark := by
          rintro rfl
          cases isSpace_of_mem_blankChar (c := c) (by rw [hblank]; exact List.mem_cons_self)
        rw [hblank, List.cons_append, Text.dropMark, if_neg hd]

end Lexicon

namespace Source

/-- **Comments are white space.**  A source whose units outside of lexemes are spaces, line feeds
apart, has the same tokens at the same lines and columns. -/
theorem tokensBy_blankGaps (source : Text) (size : GroupSize) :
    (∀ i, (Text.codeUnits (Lexicon.blankGaps source))[i]? =
      (Text.codeUnits source)[i]?.map (Lexicon.blankUnit (Lexicon.lexemes source) i)) ∧
    tokensBy size (Lexicon.blankGaps source) = tokensBy size source := by
  refine ⟨fun i => ?_, ?_⟩
  · have hunits := Lexicon.getElem?_codeUnits_blankGaps (List.nil_append source) i
    rwa [Text.units_nil, Nat.zero_add] at hunits
  · have hstarts : lineOffsets (Lexicon.blankGaps (Text.dropMark source)) =
        lineOffsets (Text.dropMark source) := by
      rw [lineOffsets, (Lexicon.blanked_blankGaps _).lineOffsetsFrom_eq, lineOffsets]
    rw [tokensBy, tokensBy, groupedLexemes_eq_lexemes, groupedLexemes_eq_lexemes,
      Lexicon.dropMark_blankGaps, hstarts, Lexicon.lexemes, Lexicon.lexemesFrom_blankGaps,
      Lexicon.lexemes]

/-- A quote in a line comment and a backtick in a block comment are blanked, and nothing moves. -/
theorem tokensBy_quotesInComments :
    let source : Text := "a // isn't\n+ /* `\n' */ b"
    let blanked : Text := "a         \n+     \n     b"
    Lexicon.blankGaps source = blanked ∧
    (∀ i, (Text.codeUnits blanked)[i]? =
      (Text.codeUnits source)[i]?.map (Lexicon.blankUnit (Lexicon.lexemes source) i)) ∧
    tokensBy (.ofInt 1) blanked = tokensBy (.ofInt 1) source ∧
    tokensBy (.ofInt 1) source = [⟨"a", 1, 0⟩, ⟨"+", 2, 0⟩, ⟨"b", 3, 5⟩] := by
  intro source blanked
  have hblanked : Lexicon.blankGaps source = blanked := by decide +kernel
  obtain ⟨hunits, htokens⟩ := tokensBy_blankGaps source (.ofInt 1)
  rw [hblanked] at hunits htokens
  refine ⟨hblanked, hunits, htokens, ?_⟩
  rw [tokensBy, groupedLexemes_eq_lexemes]
  decide +kernel

end Source

end DiagnosticHints
