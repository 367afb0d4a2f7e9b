import DiagnosticHints.Lexicon.Lexeme
import DiagnosticHints.Proofs.Occurrences

/-!
# A text is gaps and lexemes

Cutting a text into lexemes loses nothing: every lexeme stands at its offset, the lexemes follow
one another without overlap, and what they leave out are gaps. Gaps are described by a relation of
their own, without the function that looks for them, and each lexeme starts where no gap could go
on. This holds of every text, also of one whose last literal or comment is never closed.
-/

namespace DiagnosticHints

namespace Text

/-- Behind the first `offset` units of a text stands `piece`, and behind that `rest`. -/
def StandsAt (t : Text) (offset : Nat) (piece rest : Text) : Prop :=
  ∃ before, before ++ (piece ++ rest) = t ∧ units before = offset

namespace StandsAt

variable {t piece piece' rest : Text} {offset : Nat}

/-- The units that a piece takes in the text are its own. -/
theorem extract_codeUnits (h : StandsAt t offset piece rest) :
    (codeUnits t).extract offset (offset + units piece) = codeUnits piece := by
  obtain ⟨before, rfl, rfl⟩ := h
  simp only [codeUnits, units, List.flatMap_append, List.extract_eq_take_drop,
    List.drop_left, Nat.add_sub_cancel_left, List.take_left]

theorem next (h : StandsAt t offset piece (piece' ++ rest)) :
    StandsAt t (offset + units piece) piece' rest := by
  obtain ⟨before, rfl, rfl⟩ := h
  exact ⟨before ++ piece, by simp, by simp⟩

/-- A piece with nothing behind it ends where the text ends. -/
theorem offset_add_units (h : StandsAt t offset piece []) : offset + units piece = units t := by
  obtain ⟨before, rfl, rfl⟩ := h
  simp

end StandsAt

end Text

namespace Lexicon

/-! ## Gaps -/

/-- The gaps in front of `rest`: control characters and spaces, line comments up to their line
feed or the end of the text, and block comments up to their first closing. -/
inductive IsGap (rest : Text) : Text → Prop
  | nil : IsGap rest []
  | space {c : Char} {g : Text} : c.toNat ≤ 0x20 → IsGap rest g → IsGap rest (c :: g)
  | line {body g : Text} : '\n' ∉ body → (∀ c ∈ (g ++ rest).head?, c = '\n') → IsGap rest g →
      IsGap rest ('/' :: '/' :: (body ++ g))
  | block {body g : Text} : ¬ ['*', '/'] <:+: body → IsGap rest g →
      IsGap rest ('/' :: '*' :: (body ++ '*' :: '/' :: g))

/-- The texts that start with a piece of a gap: a control character or space, a line comment, or
a block comment that is closed. -/
inductive StartsGap : Text → Prop
  | space {c : Char} {t : Text} : c.toNat ≤ 0x20 → StartsGap (c :: t)
  | line {t : Text} : StartsGap ('/' :: '/' :: t)
  | block {t : Text} : ['*', '/'] <:+: t → StartsGap ('/' :: '*' :: t)

/-- A comment in front of a gap belongs to the gap. -/
theorem IsGap.comment {t comment g rest : Text} (h : comment? t = some (comment, g ++ rest))
    (hg : IsGap rest g) : IsGap rest (comment ++ g) := by
  unfold comment? at h
  split at h
  · next t =>
    simp only [Option.some.injEq, Prod.mk.injEq] at h
    obtain ⟨rfl, hrest⟩ := h
    refine .line (fun hmem => ?_) (fun c hc => ?_) hg
    · simpa using List.all_eq_true.1 List.all_takeWhile _ hmem
    · have hhead := List.head?_dropWhile_not (· != '\n') t
      rw [hrest, Option.mem_def.1 hc] at hhead
      simpa using hhead
  · next t =>
    simp only [Option.map_eq_some_iff, Prod.mk.injEq] at h
    obtain ⟨⟨body, after⟩, hs, rfl, rfl⟩ := h
    have := IsGap.block (Text.not_infix_of_splitFirst? (by simp) hs) hg
    simpa using this
  · simp at h

theorem isSome_comment?_of_startsGap {c : Char} {t : Text} (h : StartsGap (c :: t))
    (hc : ¬ isSpace c = true) : (comment? (c :: t)).isSome = true := by
  cases h with
  | space h => simp [isSpace, h] at hc
  | line => rfl
  | @block t h =>
    cases hs : Text.splitFirst? ['*', '/'] t with
    | none => exact absurd h ((Text.splitFirst?_eq_none_iff (by simp)).1 hs)
    | some parts => simp [comment?, hs]

/-- What is skipped in front of a lexeme is a gap. -/
theorem isGap_gap (t : Text) : IsGap (gap t).2 (gap t).1 := by
  fun_induction gap t with
  | case1 => exact .nil
  | case2 c r hc tail ih => exact .space (by simpa [isSpace] using hc) ih
  | case3 c r hc comment rest h _ tail ih =>
    have hrest : comment? (c :: r) = some (comment, tail.1 ++ tail.2) := by
      rw [h, gap_append]
    exact .comment hrest ih
  | case4 => exact .nil

/-- Skipping does not stop inside a gap. -/
theorem not_startsGap_gap (t : Text) : ¬ StartsGap (gap t).2 := by
  fun_induction gap t with
  | case1 =>
    intro hs
    cases hs
  | case2 c r hc tail ih => exact ih
  | case3 c r hc comment rest h _ tail ih => exact ih
  | case4 c r hc h =>
    intro hs
    have := isSome_comment?_of_startsGap hs hc
    rw [h] at this
    cases this

/-! ## One cut -/

theorem gap_eq_nil_of_cut? {t : Text} (h : cut? t = none) : (gap t).2 = [] := by
  unfold cut? at h
  split at h
  · next hgap => rw [hgap]
  · cases h

theorem exists_gap_of_cut? {t : Text} {x : Cut} (h : cut? t = some x) :
    ∃ c r, gap t = (x.gap, c :: r) ∧ scan c r = (x.raw, x.rest) := by
  unfold cut? at h
  split at h
  · cases h
  · next c r hgap =>
    obtain rfl := Option.some.inj h
    exact ⟨c, r, hgap, rfl⟩

theorem isGap_of_cut?_none {t : Text} (h : cut? t = none) : IsGap [] t := by
  have hgap := isGap_gap t
  have happend := gap_append t
  rw [gap_eq_nil_of_cut? h] at hgap happend
  rwa [← happend, List.append_nil]

theorem isGap_of_cut? {t : Text} {x : Cut} (h : cut? t = some x) :
    IsGap (x.raw ++ x.rest) x.gap ∧ ¬ StartsGap (x.raw ++ x.rest) := by
  obtain ⟨c, r, hgap, hscan⟩ := exists_gap_of_cut? h
  have hbehind : x.raw ++ x.rest = (gap t).2 := by
    rw [hgap, ← scan_append c r, hscan]
  rw [hbehind]
  refine ⟨?_, not_startsGap_gap t⟩
  have := isGap_gap t
  rwa [hgap] at this ⊢

/-- Induction along the cuts of a text. -/
@[elab_as_elim]
theorem cut_induction {motive : Text → Prop} (nil : ∀ t, cut? t = none → motive t)
    (cons : ∀ t x, cut? t = some x → motive x.rest → motive t) (t : Text) : motive t :=
  match h : cut? t with
  | none => nil t h
  | some x =>
    have : x.rest.length < t.length := length_lt_of_cut? h
    cons t x h (cut_induction nil cons x.rest)
termination_by t.length

end Lexicon

/-! ## All cuts -/

/-- The offset behind a lexeme. -/
def Lexeme.stop (x : Lexeme) : Nat := x.offset + Text.units x.raw

namespace Lexicon

/-- The stretches that some lexemes leave out between `start` and `stop`: before the first one,
between each two neighbours, and behind the last one. -/
def stretches (start stop : Nat) : List Lexeme → List (Nat × Nat)
  | [] => [(start, stop)]
  | x :: rest => (start, x.offset) :: stretches x.stop stop rest

/-- The lexemes cut a text from the offset `start` to its end without a remainder. -/
structure Segmentation (t : Text) (start : Nat) (xs : List Lexeme) : Prop where
  raw_ne_nil : ∀ x ∈ xs, x.raw ≠ []
  raw_eq : ∀ x ∈ xs, (Text.codeUnits t).extract x.offset x.stop = Text.codeUnits x.raw
  start_le : ∀ x ∈ xs, start ≤ x.offset
  ordered : xs.Pairwise fun x y => x.offset < y.offset ∧ x.stop ≤ y.offset
  gaps : ∀ s ∈ stretches start (Text.units t) xs,
    ∃ g rest, t.StandsAt s.1 g rest ∧ s.1 + Text.units g = s.2 ∧ IsGap rest g
  starts : ∀ x ∈ xs, ∃ rest, t.StandsAt x.offset x.raw rest ∧ ¬ StartsGap (x.raw ++ rest)

namespace Segmentation

variable {t g raw rest : Text} {start : Nat} {xs : List Lexeme}

/-- No lexeme is left where the rest of the text is a gap. -/
theorem nil (h : t.StandsAt start g []) (hg : IsGap [] g) : Segmentation t start [] where
  raw_ne_nil := by simp
  raw_eq := by simp
  start_le := by simp
  ordered := .nil
  gaps s hs := by
    obtain rfl := List.mem_singleton.1 hs
    exact ⟨g, [], h, h.offset_add_units, hg⟩
  starts := by simp

/-- One more gap and one more lexeme in front. -/
theorem cons (h : t.StandsAt start g (raw ++ rest)) (hg : IsGap (raw ++ rest) g)
    (hs : ¬ StartsGap (raw ++ rest)) (hne : raw ≠ [])
    (htail : Segmentation t (start + Text.units g + Text.units raw) xs) :
    Segmentation t start (⟨raw, start + Text.units g⟩ :: xs) where
  raw_ne_nil := List.forall_mem_cons.2 ⟨hne, htail.raw_ne_nil⟩
  raw_eq := List.forall_mem_cons.2 ⟨h.next.extract_codeUnits, htail.raw_eq⟩
  start_le := by
    refine List.forall_mem_cons.2 ⟨Nat.le_add_right _ _, fun x hx => ?_⟩
    have := htail.start_le x hx
    omega
  ordered := by
    refine List.pairwise_cons.2 ⟨fun y hy => ?_, htail.ordered⟩
    have hle := htail.start_le y hy
    have hpos := Text.units_pos hne
    exact ⟨by dsimp only; omega, hle⟩
  gaps := List.forall_mem_cons.2 ⟨⟨g, raw ++ rest, h, rfl, hg⟩, htail.gaps⟩
  starts := List.forall_mem_cons.2 ⟨⟨rest, h.next, hs⟩, htail.starts⟩

end Segmentation

/-- The lexemes of the end of a text cut this end. -/
theorem segmentation_lexemesFrom {t whole before : Text} (happend : before ++ t = whole) :
    Segmentation whole (Text.units before) (lexemesFrom (Text.units before) t) := by
  induction t using cut_induction generalizing before with
  | nil t h =>
    rw [lexemesFrom_of_cut?_none h]
    exact .nil ⟨before, by simpa using happend, rfl⟩ (isGap_of_cut?_none h)
  | cons t x h ih =>
    have hcut := append_of_cut? h
    obtain ⟨hgap, hstart⟩ := isGap_of_cut? h
    have hstands : whole.StandsAt (Text.units before) x.gap (x.raw ++ x.rest) :=
      ⟨before, by rw [← happend, ← hcut, List.append_assoc], rfl⟩
    have hrest : before ++ x.gap ++ x.raw ++ x.rest = whole := by
      rw [← happend, ← hcut]
      simp
    have htail := ih hrest
    rw [Text.units_append, Text.units_append] at htail
    rw [lexemesFrom_of_cut?_some h]
    exact .cons hstands hgap hstart (raw_ne_nil_of_cut? h) htail

/-- **Cutting loses nothing.**  The lexemes of a text are nonempty pieces of it at their offsets,
in order and apart from each other; everything around them is a gap, and no lexeme starts where a
gap could go on. -/
theorem segmentation_lexemes (t : Text) : Segmentation t 0 (lexemes t) :=
  segmentation_lexemesFrom (List.nil_append t)

end Lexicon

end DiagnosticHints
