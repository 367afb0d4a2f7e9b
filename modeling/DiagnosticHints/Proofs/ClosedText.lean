import DiagnosticHints.Source.Group
import DiagnosticHints.Proofs.Segmentation
import Mathlib.Data.List.Find
import Mathlib.Data.List.TakeWhile

/-!
# Lexemes of a text that goes on

A text that ends with a line feed and leaves no construct open has the same lexemes whatever
follows it. The line feed stops line comments, numbers, identifiers and operators; what it does not
stop, a template, a block comment, or a string whose last line ends with a backslash, shows in the
lexemes of the text, where the opening is left over as a punctuator.
-/

namespace DiagnosticHints

namespace Text

/-- A text that is empty or ends with a line feed. -/
def EndsLine (t : Text) : Prop := ∀ c ∈ t.getLast?, c = '\n'

theorem EndsLine.of_append {a b : Text} (h : EndsLine (a ++ b)) : EndsLine b := by
  intro c hc
  refine h c ?_
  rw [Option.mem_def] at hc ⊢
  rw [List.getLast?_append, hc, Option.some_or]

theorem EndsLine.append {a b : Text} (ha : EndsLine a) (hb : EndsLine b) : EndsLine (a ++ b) := by
  intro c hc
  rw [Option.mem_def, List.getLast?_append, Option.or_eq_some_iff] at hc
  rcases hc with hc | ⟨-, hc⟩
  · exact hb c hc
  · exact ha c hc

theorem EndsLine.mem {t : Text} (h : EndsLine t) (hne : t ≠ []) : '\n' ∈ t := by
  have hlast := h _ (List.getLast?_eq_some_getLast hne)
  rw [← hlast]
  exact List.getLast_mem hne

theorem EndsLine.tail {c : Char} {t : Text} (h : EndsLine (c :: t)) : EndsLine t :=
  h.of_append (a := [c])

/-- Behind a character other than a line feed the line goes on. -/
theorem EndsLine.tail_ne_nil {c : Char} {t : Text} (h : EndsLine (c :: t)) (hc : c ≠ '\n') :
    t ≠ [] := by
  rintro rfl
  exact hc (h c rfl)

/-- Taking stops in the text itself when it stops somewhere there. -/
theorem takeWhile_append_of_mem {p : Char → Bool} {c : Char} {t : Text} (hc : c ∈ t)
    (hp : p c = false) (s : Text) : (t ++ s).takeWhile p = t.takeWhile p := by
  induction t with
  | nil => cases hc
  | cons d t ih =>
    rw [List.cons_append, List.takeWhile_cons, List.takeWhile_cons]
    split
    · next hd =>
      rw [ih ((List.mem_cons.1 hc).resolve_left fun h => ?_)]
      rw [h, hd] at hp
      cases hp
    · rfl

/-- Dropping stops in the text itself when it stops somewhere there. -/
theorem dropWhile_append_of_mem {p : Char → Bool} {c : Char} {t : Text} (hc : c ∈ t)
    (hp : p c = false) (s : Text) : (t ++ s).dropWhile p = t.dropWhile p ++ s := by
  have h := List.takeWhile_append_dropWhile (p := p) (l := t ++ s)
  rw [takeWhile_append_of_mem hc hp] at h
  refine List.append_cancel_left (h.trans ?_)
  rw [← List.append_assoc, List.takeWhile_append_dropWhile]

end Text

namespace Lexicon

open Text (EndsLine)

variable {c : Char} {r t comment rest : Text}

/-! ## Gaps -/

theorem comment?_append (h : comment? t = some (comment, rest)) (ht : EndsLine t) (s : Text) :
    comment? (t ++ s) = some (comment, rest ++ s) := by
  unfold comment? at h
  split at h
  · next t =>
    -- the line feed at the end of the text ends the comment
    have hmem := (ht.tail.tail).mem (ht.tail.tail_ne_nil (by decide))
    rw [Option.some.injEq, Prod.mk.injEq] at h
    rw [List.cons_append, List.cons_append, comment?,
      Text.takeWhile_append_of_mem hmem (by decide),
      Text.dropWhile_append_of_mem hmem (by decide), h.1, h.2]
  · next t =>
    simp only [Option.map_eq_some_iff, Prod.mk.injEq] at h
    obtain ⟨⟨body, after⟩, hs, rfl, rfl⟩ := h
    rw [List.cons_append, List.cons_append, comment?, Text.splitFirst?_append_right hs]
    rfl
  · cases h

theorem comment?_append_eq_none (h : comment? (c :: r) = none) (ht : EndsLine (c :: r))
    (hopen : ¬ (c = '/' ∧ r.head? = some '*')) (s : Text) : comment? (c :: r ++ s) = none := by
  by_cases hc : c = '/'
  · subst hc
    cases r with
    | nil => exact absurd rfl (ht.tail_ne_nil (by decide))
    | cons d r =>
      have hstar : d ≠ '*' := fun hd => hopen ⟨rfl, by rw [hd]; rfl⟩
      have hslash : d ≠ '/' := by
        rintro rfl
        cases h
      rw [List.cons_append, List.cons_append]
      unfold comment?
      split
      · next heq => exact absurd (List.cons.inj (List.cons.inj heq).2).1 hslash
      · next heq => exact absurd (List.cons.inj (List.cons.inj heq).2).1 hstar
      · rfl
  · rw [List.cons_append]
    unfold comment?
    split
    · next heq => exact absurd (List.cons.inj heq).1 hc
    · next heq => exact absurd (List.cons.inj heq).1 hc
    · rfl

theorem gap_space (h : isSpace c = true) : gap (c :: r) = (c :: (gap r).1, (gap r).2) := by
  rw [gap, if_pos h]

theorem gap_comment (hc : ¬ isSpace c = true) (h : comment? (c :: r) = some (comment, rest)) :
    gap (c :: r) = (comment ++ (gap rest).1, (gap rest).2) := by
  rw [gap, if_neg hc]
  split
  · next heq =>
    rw [h, Option.some.injEq, Prod.mk.injEq] at heq
    obtain ⟨rfl, rfl⟩ := heq
    rfl
  · next heq =>
    rw [h] at heq
    cases heq

theorem gap_of_comment?_none (hc : ¬ isSpace c = true) (h : comment? (c :: r) = none) :
    gap (c :: r) = ([], c :: r) := by
  rw [gap, if_neg hc]
  split
  · next heq =>
    rw [h] at heq
    cases heq
  · rfl

/-- A gap that fills the text goes on in what follows. -/
theorem gap_append_of_eq_nil (h : (gap t).2 = []) (ht : EndsLine t) (s : Text) :
    gap (t ++ s) = (t ++ (gap s).1, (gap s).2) := by
  induction t using gap.induct with
  | case1 => rfl
  | case2 c r hc ih =>
    rw [gap_space hc] at h
    rw [List.cons_append, gap_space hc, ih h ht.tail, List.cons_append]
  | case3 c r hc comment rest hcomment _ ih =>
    have happend := append_of_comment? hcomment
    have hgoes := comment?_append hcomment ht s
    rw [gap_comment hc hcomment] at h
    rw [← happend] at ht
    rw [List.cons_append] at hgoes ⊢
    rw [gap_comment hc hgoes, ih h ht.of_append, ← List.append_assoc, happend, List.cons_append]
  | case4 c r hc hnone =>
    rw [gap_of_comment?_none hc hnone] at h
    cases h

/-- A gap that ends in the text ends there whatever follows, unless what is behind it opens a
comment. -/
theorem gap_append_of_eq_cons {g : Text} (h : gap t = (g, c :: r)) (ht : EndsLine t)
    (hopen : ¬ (c = '/' ∧ r.head? = some '*')) (s : Text) :
    gap (t ++ s) = (g, c :: (r ++ s)) := by
  induction t using gap.induct generalizing g with
  | case1 =>
    rw [gap, Prod.mk.injEq] at h
    cases h.2
  | case2 d u hd ih =>
    rw [gap_space hd, Prod.mk.injEq] at h
    rw [List.cons_append, gap_space hd, ih (Prod.ext rfl h.2) ht.tail, ← h.1]
  | case3 d u hd comment rest hcomment _ ih =>
    have happend := append_of_comment? hcomment
    have hgoes := comment?_append hcomment ht s
    rw [gap_comment hd hcomment, Prod.mk.injEq] at h
    rw [← happend] at ht
    rw [List.cons_append] at hgoes ⊢
    rw [gap_comment hd hgoes, ih (Prod.ext rfl h.2) ht.of_append, ← h.1]
  | case4 d u hd hnone =>
    rw [gap_of_comment?_none hd hnone, Prod.mk.injEq, List.cons.injEq] at h
    obtain ⟨rfl, rfl, rfl⟩ := h
    exact gap_of_comment?_none hd (comment?_append_eq_none hnone ht hopen s)

/-! ## Lexemes -/

theorem closeLiteral?_escape (quote c : Char) (t : Text) :
    closeLiteral? quote ('\\' :: c :: t) =
      (closeLiteral? quote t).map fun (body, rest) => ('\\' :: c :: body, rest) := by
  rw [closeLiteral?]

theorem closeLiteral?_of_ne {quote : Char} (hc : c ≠ '\\') :
    closeLiteral? quote (c :: t) =
      if c = quote then some ([c], t)
      else if c = '\n' ∧ quote ≠ backtick then none
      else (closeLiteral? quote t).map fun (body, rest) => (c :: body, rest) := by
  rw [closeLiteral?]
  · exact fun h => absurd h hc
  · exact fun _ _ h => absurd h hc

/-- Induction along the characters of a literal, where a backslash takes the next one with it. -/
@[elab_as_elim]
theorem literal_induction {motive : Text → Prop} (nil : motive []) (lone : motive ['\\'])
    (escape : ∀ c t, motive t → motive ('\\' :: c :: t))
    (char : ∀ c t, c ≠ '\\' → motive t → motive (c :: t)) (t : Text) : motive t :=
  match t with
  | [] => nil
  | c :: t =>
    if hc : c = '\\' then
      match t with
      | [] => hc ▸ lone
      | d :: t => hc ▸ escape d t (literal_induction nil lone escape char t)
    else char c t hc (literal_induction nil lone escape char t)

/-- A literal that is closed stays as it is. -/
theorem closeLiteral?_append {quote : Char} {body : Text}
    (h : closeLiteral? quote t = some (body, rest)) (s : Text) :
    closeLiteral? quote (t ++ s) = some (body, rest ++ s) := by
  induction t using literal_induction generalizing body with
  | nil => cases h
  | lone => cases h
  | escape c t ih =>
    rw [closeLiteral?_escape, Option.map_eq_some_iff] at h
    obtain ⟨⟨b, u⟩, hs, heq⟩ := h
    rw [Prod.mk.injEq] at heq
    obtain ⟨rfl, rfl⟩ := heq
    rw [List.cons_append, List.cons_append, closeLiteral?_escape, ih hs]
    rfl
  | char c t hc ih =>
    rw [closeLiteral?_of_ne hc] at h
    rw [List.cons_append, closeLiteral?_of_ne hc]
    split_ifs at h ⊢ with hquote hline
    · rw [Option.some.injEq, Prod.mk.injEq] at h
      rw [h.1, h.2]
    · rw [Option.map_eq_some_iff] at h
      obtain ⟨⟨b, u⟩, hs, heq⟩ := h
      rw [Prod.mk.injEq] at heq
      obtain ⟨rfl, rfl⟩ := heq
      rw [ih hs]
      rfl

/-- A string that is not closed on its lines stays open, unless the last one ends with a
backslash. -/
theorem closeLiteral?_append_eq_none {quote : Char} (h : closeLiteral? quote t = none)
    (hquote : quote ≠ backtick) (ht : EndsLine t) (hne : t ≠ [])
    (hcontinued : ¬ ['\\', '\n'] <:+ t) (s : Text) : closeLiteral? quote (t ++ s) = none := by
  induction t using literal_induction with
  | nil => exact absurd rfl hne
  | lone => exact absurd (ht '\\' rfl) (by decide)
  | escape c t ih =>
    have hne' : t ≠ [] := by
      rintro rfl
      obtain rfl := ht c rfl
      exact hcontinued (List.suffix_refl _)
    rw [closeLiteral?_escape, Option.map_eq_none_iff] at h
    rw [List.cons_append, List.cons_append, closeLiteral?_escape,
      ih h ht.tail.tail hne' fun hs => hcontinued (hs.trans (List.suffix_append ['\\', c] t))]
    rfl
  | char c t hc ih =>
    rw [closeLiteral?_of_ne hc] at h
    rw [List.cons_append, closeLiteral?_of_ne hc]
    split_ifs at h ⊢ with heq hline
    · rfl
    · have hne' : t ≠ [] := ht.tail_ne_nil fun hc => hline ⟨hc, hquote⟩
      rw [Option.map_eq_none_iff] at h
      rw [ih h ht.tail hne' fun hs => hcontinued (hs.trans (List.suffix_cons c t))]
      rfl

theorem numberTail_append_right (ht : EndsLine t) (hne : t ≠ []) (s : Text) :
    numberTail (t ++ s) = ((numberTail t).1, (numberTail t).2 ++ s) := by
  have hmem := ht.mem hne
  have hstop : isNumberPart '\n' = false := by decide
  have hend : EndsLine (t.dropWhile isNumberPart) := by
    rw [← List.takeWhile_append_dropWhile (p := isNumberPart) (l := t)] at ht
    exact ht.of_append
  have hdrop : t.dropWhile isNumberPart ≠ [] := fun h => by
    have := List.dropWhile_eq_nil_iff.1 h _ hmem
    rw [hstop] at this
    cases this
  simp only [numberTail, Text.takeWhile_append_of_mem hmem hstop,
    Text.dropWhile_append_of_mem hmem hstop]
  generalize t.dropWhile isNumberPart = u at hend hdrop
  rcases u with _ | ⟨a, _ | ⟨d, v⟩⟩
  · exact absurd rfl hdrop
  · obtain rfl := hend a rfl
    rfl
  · by_cases ha : a = '.'
    · subst ha
      by_cases hd : d.isDigit = true
      · have hv := hend.tail.tail.mem (hend.tail.tail_ne_nil (by rintro rfl; cases hd))
        simp [hd, Text.takeWhile_append_of_mem hv hstop, Text.dropWhile_append_of_mem hv hstop]
      · simp [hd]
    · simp [ha]

/-- No operator reaches over the line feed at the end of a text. -/
theorem isPrefixOf_append_of_endsLine {operator : Text} (hmem : '\n' ∉ operator)
    (ht : EndsLine t) (hne : t ≠ []) (s : Text) :
    operator.isPrefixOf (t ++ s) = operator.isPrefixOf t := by
  rw [Bool.eq_iff_iff, List.isPrefixOf_iff_prefix, List.isPrefixOf_iff_prefix]
  refine ⟨fun h => ?_, fun h => h.trans (List.prefix_append t s)⟩
  rcases List.prefix_or_prefix_of_prefix h (List.prefix_append t s) with h | h
  · exact h
  · exact absurd (h.subset (ht.mem hne)) hmem

theorem punctuator_append_right (ht : EndsLine (c :: r)) (s : Text) :
    punctuator c (r ++ s) = ((punctuator c r).1, (punctuator c r).2 ++ s) := by
  have hline : ∀ operator ∈ operators, '\n' ∉ operator := by decide +kernel
  have hfind : operators.find? (·.isPrefixOf (c :: (r ++ s))) =
      operators.find? (·.isPrefixOf (c :: r)) :=
    List.find?_congr fun operator hmem =>
      isPrefixOf_append_of_endsLine (hline operator hmem) ht (by simp) s
  unfold punctuator
  rw [hfind]
  split
  · next operator h =>
    have hp : operator.isPrefixOf (c :: r) = true := by simpa using List.find?_some h
    have hlen := (List.isPrefixOf_iff_prefix.1 hp).length_le
    rw [← List.cons_append, List.drop_append_of_le_length hlen]
  · rfl

/-- A lexeme stays as it is when the text goes on, unless it is the quote of a literal that may
still be closed. -/
theorem scan_append_right (ht : EndsLine (c :: r)) (hc : c ≠ '\n')
    (hliteral : isQuote c = true → closeLiteral? c r = none →
      c ≠ backtick ∧ ¬ ['\\', '\n'] <:+ r) (s : Text) :
    scan c (r ++ s) = ((scan c r).1, (scan c r).2 ++ s) := by
  have hend := ht.tail
  have hne := ht.tail_ne_nil hc
  have hmem := hend.mem hne
  unfold scan
  split_ifs with hquote hdigit hstart
  · cases hclose : closeLiteral? c r with
    | none =>
      obtain ⟨htick, hcontinued⟩ := hliteral hquote hclose
      rw [closeLiteral?_append_eq_none hclose htick hend hne hcontinued]
    | some parts => rw [closeLiteral?_append hclose]
  · rw [numberTail_append_right hend hne]
  · have hstop : isIdentifierPart '\n' = false := by decide
    rw [Text.takeWhile_append_of_mem hmem hstop, Text.dropWhile_append_of_mem hmem hstop]
  · exact punctuator_append_right ht s

/-! ## Closed texts -/

theorem opensConstruct_cons_eq_false {continued : Bool} {x : Lexeme} {xs : List Lexeme}
    (h : Source.opensConstruct continued (x :: xs) = false) :
    x.raw ≠ [backtick] ∧ (continued = true → x.raw ≠ ['\x22'] ∧ x.raw ≠ ['\x27']) ∧
      (x.raw = ['/'] → ∀ y ∈ xs.head?, y.offset = x.offset + 1 → y.raw.head? ≠ some '*') ∧
      Source.opensConstruct continued xs = false := by
  cases xs <;> simp_all [Source.opensConstruct]

theorem scan_slash_star (r : Text) : scan '/' ('*' :: r) = (['/'], '*' :: r) := by
  rfl

theorem head?_scan (c : Char) (r : Text) : (scan c r).1.head? = some c := by
  have happend := scan_append c r
  obtain ⟨d, u, hd⟩ := List.exists_cons_of_ne_nil (scan_ne_nil c r)
  rw [hd, List.cons_append, List.cons.injEq] at happend
  rw [hd, List.head?_cons, happend.1]

theorem cut?_of_gap {g : Text} (h : gap t = (g, c :: r)) :
    cut? t = some ⟨g, (scan c r).1, (scan c r).2⟩ := by
  rw [cut?, h]

/-- An asterisk right behind a slash that is a lexeme shows that a comment was opened there. -/
theorem not_opensComment {continued : Bool} {g : Text} {offset : Nat} (h : gap t = (g, c :: r))
    (hclosed : Source.opensConstruct continued (lexemesFrom offset t) = false) :
    ¬ (c = '/' ∧ r.head? = some '*') := by
  rintro ⟨rfl, hr⟩
  obtain ⟨u, rfl⟩ := List.head?_eq_some_iff.1 hr
  have hcut := cut?_of_gap h
  rw [scan_slash_star] at hcut
  have hgap : gap ('*' :: u) = ([], '*' :: u) := gap_of_comment?_none (by decide) rfl
  rw [lexemesFrom_of_cut?_some hcut, lexemesFrom_of_cut?_some (cut?_of_gap hgap)] at hclosed
  exact (opensConstruct_cons_eq_false hclosed).2.2.1 rfl _ rfl rfl (head?_scan '*' u)

/-- The first cut stays as it is when a closed text goes on. -/
theorem cut?_append {continued : Bool} {x : Cut} {offset : Nat} (h : cut? t = some x)
    (ht : EndsLine t) (hcontinued : ['\\', '\n'] <:+ t → continued = true)
    (hclosed : Source.opensConstruct continued (lexemesFrom offset t) = false) (s : Text) :
    cut? (t ++ s) = some { x with rest := x.rest ++ s } := by
  obtain ⟨c, r, hgap, hscan⟩ := exists_gap_of_cut? h
  have happend := gap_append t
  rw [hgap] at happend
  have hend : EndsLine (c :: r) := by
    rw [← happend] at ht
    exact ht.of_append
  have hc : c ≠ '\n' := by
    rintro rfl
    have hstart := not_startsGap_gap t
    rw [hgap] at hstart
    exact hstart (.space (by decide))
  have hopen := not_opensComment hgap hclosed
  have hliteral : isQuote c = true → closeLiteral? c r = none →
      c ≠ backtick ∧ ¬ ['\\', '\n'] <:+ r := by
    intro hquote hclose
    have hraw : x.raw = [c] := by
      rw [scan, if_pos hquote, hclose] at hscan
      exact (Prod.mk.inj hscan).1.symm
    rw [lexemesFrom_of_cut?_some h] at hclosed
    obtain ⟨htick, hquotes, -⟩ := opensConstruct_cons_eq_false hclosed
    refine ⟨fun hc => htick (by rw [hraw, hc]), fun hsuffix => ?_⟩
    have hsuffix' : ['\\', '\n'] <:+ t := by
      rw [← happend]
      exact (hsuffix.trans (List.suffix_cons c r)).trans (List.suffix_append x.gap (c :: r))
    obtain ⟨hdouble, hsingle⟩ := hquotes (hcontinued hsuffix')
    rw [hraw] at htick hdouble hsingle
    simp_all [isQuote]
  rw [cut?_of_gap (gap_append_of_eq_cons hgap ht hopen s),
    scan_append_right hend hc hliteral, hscan]

/-- **A closed text can be cut off.**  The lexemes of a text that ends with a line feed and leaves
no construct open stay the same whatever follows it, and what follows has the lexemes that it has
alone. -/
theorem lexemesFrom_append {continued : Bool} (offset : Nat) (ht : EndsLine t)
    (hcontinued : ['\\', '\n'] <:+ t → continued = true)
    (hclosed : Source.opensConstruct continued (lexemesFrom offset t) = false) (s : Text) :
    lexemesFrom offset (t ++ s) =
      lexemesFrom offset t ++ lexemesFrom (offset + Text.units t) s := by
  induction t using cut_induction generalizing offset with
  | nil t h =>
    have hgap := gap_append_of_eq_nil (gap_eq_nil_of_cut? h) ht s
    rw [lexemesFrom_of_cut?_none h, List.nil_append]
    cases hs : cut? s with
    | none =>
      have hnone : cut? (t ++ s) = none := by
        rw [cut?, hgap, gap_eq_nil_of_cut? hs]
      rw [lexemesFrom_of_cut?_none hs, lexemesFrom_of_cut?_none hnone]
    | some y =>
      obtain ⟨c, r, hc, hscan⟩ := exists_gap_of_cut? hs
      rw [hc] at hgap
      have hcut : cut? (t ++ s) = some ⟨t ++ y.gap, y.raw, y.rest⟩ := by
        rw [cut?_of_gap hgap, hscan]
      rw [lexemesFrom_of_cut?_some hs, lexemesFrom_of_cut?_some hcut]
      simp only [Text.units_append, Nat.add_assoc]
  | cons t x h ih =>
    have happend := append_of_cut? h
    have hrest : EndsLine x.rest := by
      rw [← happend] at ht
      exact ht.of_append
    have hsuffix : x.rest <:+ t := by
      rw [← happend]
      exact List.suffix_append _ _
    have hcut := cut?_append h ht hcontinued hclosed s
    rw [lexemesFrom_of_cut?_some h] at hclosed ⊢
    have htail := ih _ hrest (fun hs => hcontinued (hs.trans hsuffix))
      (opensConstruct_cons_eq_false hclosed).2.2.2
    rw [lexemesFrom_of_cut?_some hcut, htail, List.cons_append, ← happend, Text.units_append,
      Text.units_append]
    simp only [Nat.add_assoc]

end Lexicon

end DiagnosticHints
