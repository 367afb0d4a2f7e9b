import DiagnosticHints.Proofs.TemplateFilling
import Mathlib.Algebra.Order.BigOperators.Group.List
import Mathlib.Algebra.Order.Ring.Nat

/-!
# The holes of a template

Where a template has a hole is said without looking for it from left to right: some text stands in
front of the hole, some behind it, and in between stands a key in braces. Holes never overlap, so
that one pass finds every hole there is, and filling them is one substitution.
-/

namespace DiagnosticHints

namespace Template

/-- A hole of a template with its key, the text in front of it and the text behind it. -/
structure HoleAt (template before key after : Text) : Prop where
  key_ne_nil : key ≠ []
  isKeyChar : ∀ c ∈ key, isKeyChar c = true
  split : before ++ '\x7b' :: (key ++ '\x7d' :: after) = template

/-- One piece of a list is a hole with the key, between pieces that make up the two texts. -/
def HoleAmong (ps : List Piece) (before key after : Text) : Prop :=
  ∃ xs ys, ps = xs ++ .hole key :: ys ∧ xs.flatMap Piece.source = before ∧
    ys.flatMap Piece.source = after

/-- A template is cut into characters and holes in such a way that these are all of its holes. -/
structure IsCut (template : Text) (ps : List Piece) : Prop where
  source : ps.flatMap Piece.source = template
  holeAt_iff : ∀ {before key after : Text},
    HoleAt template before key after ↔ HoleAmong ps before key after

section

variable {c d : Char} {t words before before' key key' after after' rest template : Text}
  {p : Piece} {ps : List Piece}

/-! ## Finding a hole -/

theorem holeAt_nil_iff : HoleAt ('\x7b' :: t) [] key after ↔ hole? t = some (key, after) := by
  constructor
  · rintro ⟨hne, hkey, hsplit⟩
    rw [List.nil_append, List.cons.injEq] at hsplit
    rw [← hsplit.2, hole?_append hne hkey]
  · intro h
    obtain ⟨hne, hkey⟩ := isKeyChar_of_hole? h
    exact ⟨hne, hkey, by rw [append_of_hole? h, List.nil_append]⟩

theorem not_holeAt_nil (h : c ≠ '\x7b') : ¬ HoleAt (c :: t) [] key after := by
  rintro ⟨-, -, hsplit⟩
  rw [List.nil_append, List.cons.injEq] at hsplit
  exact h hsplit.1.symm

theorem holeAt_cons_iff :
    HoleAt (c :: t) (d :: before) key after ↔ d = c ∧ HoleAt t before key after := by
  constructor
  · rintro ⟨hne, hkey, hsplit⟩
    rw [List.cons_append, List.cons.injEq] at hsplit
    exact ⟨hsplit.1, hne, hkey, hsplit.2⟩
  · rintro ⟨rfl, hne, hkey, rfl⟩
    exact ⟨hne, hkey, rfl⟩

/-- Behind words without an opening brace the holes are those of the rest. -/
theorem holeAt_append_iff (h : '\x7b' ∉ words) :
    HoleAt (words ++ t) before key after ↔
      ∃ before', words ++ before' = before ∧ HoleAt t before' key after := by
  induction words generalizing before with
  | nil =>
    constructor
    · exact fun hhole => ⟨before, rfl, hhole⟩
    · rintro ⟨_, rfl, hhole⟩
      exact hhole
  | cons c words ih =>
    rw [List.mem_cons, not_or] at h
    cases before with
    | nil => simp [not_holeAt_nil (Ne.symm h.1)]
    | cons d before =>
      rw [List.cons_append, holeAt_cons_iff, ih h.2]
      constructor
      · rintro ⟨rfl, before', rfl, hhole⟩
        exact ⟨before', rfl, hhole⟩
      · rintro ⟨before', hbefore, hhole⟩
        rw [List.cons_append, List.cons.injEq] at hbefore
        exact ⟨hbefore.1.symm, before', hbefore.2, hhole⟩

theorem holeAmong_cons_iff :
    HoleAmong (p :: ps) before key after ↔
      (p = .hole key ∧ before = [] ∧ ps.flatMap Piece.source = after) ∨
        ∃ before', p.source ++ before' = before ∧ HoleAmong ps before' key after := by
  constructor
  · rintro ⟨xs, ys, hps, rfl, rfl⟩
    cases xs with
    | nil =>
      rw [List.nil_append, List.cons.injEq] at hps
      exact .inl ⟨hps.1, rfl, by rw [hps.2]⟩
    | cons x xs =>
      rw [List.cons_append, List.cons.injEq] at hps
      exact .inr ⟨xs.flatMap Piece.source, by rw [hps.1, List.flatMap_cons],
        xs, ys, hps.2, rfl, rfl⟩
  · rintro (⟨rfl, rfl, rfl⟩ | ⟨_, rfl, xs, ys, rfl, rfl, rfl⟩)
    · exact ⟨[], ps, rfl, rfl, rfl⟩
    · exact ⟨p :: xs, ys, rfl, List.flatMap_cons, rfl⟩

/-- In front of a character that opens no hole, the cut of the rest goes on. -/
theorem IsCut.char (h : IsCut t ps) (hno : ∀ {key after : Text}, ¬ HoleAt (c :: t) [] key after) :
    IsCut (c :: t) (.char c :: ps) where
  source := by rw [List.flatMap_cons, h.source, Piece.source, List.singleton_append]
  holeAt_iff {before key after} := by
    rw [holeAmong_cons_iff]
    cases before with
    | nil => simp [hno, Piece.source]
    | cons d before => simp [holeAt_cons_iff, h.holeAt_iff, Piece.source, eq_comm]

/-- No hole begins inside of a hole. -/
theorem IsCut.hole (h : IsCut rest ps) (hhole : hole? t = some (key, rest)) :
    IsCut ('\x7b' :: t) (.hole key :: ps) where
  source := by
    rw [List.flatMap_cons, h.source, Piece.source, List.cons_append, List.append_assoc,
      List.singleton_append, append_of_hole? hhole]
  holeAt_iff {before key' after} := by
    have hkey : '\x7b' ∉ key ++ ['\x7d'] := by
      intro hmem
      rw [List.mem_append, List.mem_singleton] at hmem
      rcases hmem with hmem | hmem
      · exact absurd ((isKeyChar_of_hole? hhole).2 _ hmem) (by decide)
      · exact absurd hmem (by decide)
    have ht : t = key ++ ['\x7d'] ++ rest := by
      rw [List.append_assoc, List.singleton_append, append_of_hole? hhole]
    rw [holeAmong_cons_iff]
    cases before with
    | nil => simp [holeAt_nil_iff, hhole, h.source, Piece.source]
    | cons d before =>
      rw [holeAt_cons_iff, ht, holeAt_append_iff hkey]
      simp [h.holeAt_iff, Piece.source, and_assoc, eq_comm]

/-- One pass from left to right finds all holes. -/
theorem isCut_pieces (template : Text) : IsCut template (pieces template) := by
  induction template using pieces.induct with
  | case1 =>
    rw [pieces]
    refine ⟨rfl, fun {before key after} => ?_⟩
    constructor
    · rintro ⟨-, -, hsplit⟩
      exact absurd hsplit (List.append_ne_nil_of_right_ne_nil _ (List.cons_ne_nil _ _))
    · rintro ⟨xs, ys, hps, -⟩
      exact absurd hps.symm (List.append_ne_nil_of_right_ne_nil _ (List.cons_ne_nil _ _))
  | case2 t key rest hhole _ ih =>
    rw [pieces_hole hhole]
    exact ih.hole hhole
  | case3 t hhole ih =>
    rw [pieces_brace hhole]
    exact ih.char fun {key after} h => by
      rw [holeAt_nil_iff, hhole] at h
      cases h
  | case4 c t hc ih =>
    rw [pieces_char hc]
    exact ih.char (not_holeAt_nil hc)

/-! ## Holes are apart -/

/-- Two places in a list are the same, or one of them is in front of the other. -/
theorem append_cons_trichotomy {α : Type} {xs ys xs' ys' : List α} {x x' : α}
    (h : xs ++ x :: ys = xs' ++ x' :: ys') :
    (xs = xs' ∧ x = x' ∧ ys = ys') ∨ xs ++ [x] <+: xs' ∨ xs' ++ [x'] <+: xs := by
  rcases List.append_eq_append_iff.1 h with ⟨zs, rfl, hys⟩ | ⟨zs, rfl, hys⟩
  · cases zs with
    | nil =>
      rw [List.nil_append, List.cons.injEq] at hys
      exact .inl ⟨(List.append_nil xs).symm, hys⟩
    | cons z zs =>
      rw [List.cons_append, List.cons.injEq] at hys
      exact .inr (.inl ⟨zs, by rw [hys.1, List.append_assoc, List.singleton_append]⟩)
  · cases zs with
    | nil =>
      rw [List.nil_append, List.cons.injEq] at hys
      exact .inl ⟨List.append_nil xs', hys.1.symm, hys.2.symm⟩
    | cons z zs =>
      rw [List.cons_append, List.cons.injEq] at hys
      exact .inr (.inr ⟨zs, by rw [hys.1, List.append_assoc, List.singleton_append]⟩)

/-- A piece that comes earlier is written earlier. -/
theorem prefix_flatMap_source {xs xs' : List Piece} (h : xs ++ [p] <+: xs') :
    xs.flatMap Piece.source ++ p.source <+: xs'.flatMap Piece.source := by
  obtain ⟨ys, rfl⟩ := h
  rw [List.flatMap_append, List.flatMap_append, List.flatMap_singleton]
  exact List.prefix_append _ _

/-- Two holes of a template are the same, or one of them ends in front of the other. -/
theorem IsCut.disjoint (h : IsCut template ps) (hx : HoleAt template before key after)
    (hy : HoleAt template before' key' after') :
    (before = before' ∧ key = key' ∧ after = after') ∨
      before ++ (Piece.hole key).source <+: before' ∨
        before' ++ (Piece.hole key').source <+: before := by
  obtain ⟨xs, ys, hps, rfl, rfl⟩ := h.holeAt_iff.1 hx
  obtain ⟨xs', ys', hps', rfl, rfl⟩ := h.holeAt_iff.1 hy
  rw [hps] at hps'
  rcases append_cons_trichotomy hps' with ⟨rfl, hkey, rfl⟩ | hfront | hfront
  · exact .inl ⟨rfl, Piece.hole.inj hkey, rfl⟩
  · exact .inr (.inl (prefix_flatMap_source hfront))
  · exact .inr (.inr (prefix_flatMap_source hfront))

end

/-! ## The keys of a template -/

/-- Some hole for one key stands in front of every hole for another one. -/
def Precedes (template key key' : Text) : Prop :=
  ∃ before after, HoleAt template before key after ∧
    ∀ before' after', HoleAt template before' key' after' →
      before ++ (Piece.hole key).source <+: before'

section

variable {key template : Text} {ps : List Piece}

theorem mem_keys_iff_mem_pieces : key ∈ keys template ↔ .hole key ∈ pieces template := by
  rw [keys, List.mem_eraseDups, List.mem_filterMap]
  constructor
  · rintro ⟨p, hp, hkey⟩
    cases p with
    | char c => cases hkey
    | hole key' => rwa [← Option.some.inj hkey]
  · exact fun h => ⟨_, h, rfl⟩

theorem mem_keys_iff : key ∈ keys template ↔ ∃ before after, HoleAt template before key after := by
  rw [mem_keys_iff_mem_pieces, List.mem_iff_append]
  constructor
  · rintro ⟨xs, ys, h⟩
    exact ⟨_, _, (isCut_pieces template).holeAt_iff.2 ⟨xs, ys, h, rfl, rfl⟩⟩
  · rintro ⟨before, after, h⟩
    obtain ⟨xs, ys, hps, -, -⟩ := (isCut_pieces template).holeAt_iff.1 h
    exact ⟨xs, ys, hps⟩

/-- The keys that are kept, in the order of their first holes. The filter stands for the keys that
have come before. -/
theorem pairwise_eraseDups_keys (ps : List Piece) (kept : Text → Bool) :
    ((ps.filterMap Piece.key?).filter kept).eraseDups.Pairwise fun key key' =>
      ∃ xs ys, ps = xs ++ .hole key :: ys ∧ .hole key' ∉ xs ++ [.hole key] := by
  induction ps generalizing kept with
  | nil => exact .nil
  | cons p ps ih =>
    -- the order of the rest is that of the whole list, when the rest has all that is kept
    have hcons : ∀ {kept' : Text → Bool}, (∀ key, kept' key = true → .hole key ≠ p) →
        ((ps.filterMap Piece.key?).filter kept').eraseDups.Pairwise fun key key' =>
          ∃ xs ys, p :: ps = xs ++ .hole key :: ys ∧ .hole key' ∉ xs ++ [.hole key] := by
      intro kept' hp
      refine (ih kept').imp_of_mem fun {key key'} _ hkey' => ?_
      rintro ⟨xs, ys, rfl, hxs⟩
      rw [List.mem_eraseDups, List.mem_filter] at hkey'
      refine ⟨p :: xs, ys, rfl, ?_⟩
      rw [List.cons_append, List.mem_cons, not_or]
      exact ⟨hp key' hkey'.2, hxs⟩
    cases p with
    | char c => exact hcons fun key _ => Piece.noConfusion
    | hole first =>
      rw [List.filterMap_cons_some (show (Piece.hole first).key? = some first from rfl)]
      by_cases hfirst : kept first = true
      · rw [List.filter_cons_of_pos hfirst, List.eraseDups_cons, List.filter_filter]
        have hne : ∀ key, (!key == first && kept key) = true → .hole key ≠ Piece.hole first := by
          rintro key hkey ⟨⟩
          simp at hkey
        refine .cons (fun key' hkey' => ⟨[], ps, rfl, ?_⟩) (hcons hne)
        rw [List.mem_eraseDups, List.mem_filter] at hkey'
        rw [List.nil_append, List.mem_singleton]
        exact hne key' hkey'.2
      · rw [List.filter_cons_of_neg hfirst]
        refine hcons fun key hkey => ?_
        rintro ⟨⟩
        exact hfirst hkey

/-- The keys come in the order of their first holes. -/
theorem pairwise_precedes_keys (template : Text) :
    (keys template).Pairwise (Precedes template) := by
  have hcut := isCut_pieces template
  have hfirst := pairwise_eraseDups_keys (pieces template) fun _ => true
  rw [List.filter_true] at hfirst
  refine hfirst.imp fun {key key'} => ?_
  rintro ⟨xs, ys, hps, hnot⟩
  refine ⟨_, _, hcut.holeAt_iff.2 ⟨xs, ys, hps, rfl, rfl⟩, fun before' after' hhole => ?_⟩
  obtain ⟨xs', ys', hps', rfl, -⟩ := hcut.holeAt_iff.1 hhole
  rw [hps] at hps'
  rw [List.mem_append, List.mem_singleton, not_or] at hnot
  rcases append_cons_trichotomy hps' with ⟨-, hkey, -⟩ | hfront | hfront
  · exact absurd hkey.symm hnot.2
  · exact prefix_flatMap_source hfront
  · exact absurd (hfront.subset (List.mem_append_right xs' (List.mem_singleton_self _))) hnot.1

theorem Precedes.ne {key key' : Text} (h : Precedes template key key') : key ≠ key' := by
  rintro rfl
  obtain ⟨before, after, hhole, hfirst⟩ := h
  have hlen := (hfirst before after hhole).length_le
  rw [List.length_append, Piece.source, List.length_cons] at hlen
  omega

/-! ## What filling depends on -/

theorem fill_congr {value value' : Text → Option Text}
    (h : ∀ key ∈ keys template, value key = value' key) :
    fill value template = fill value' template := by
  refine List.flatMap_congr fun p hp => ?_
  cases p with
  | char c => rfl
  | hole key => rw [Piece.fill, Piece.fill, h key (mem_keys_iff_mem_pieces.2 hp)]

/-- A longer value for one key makes the text longer. -/
theorem length_fill_lt {value value' : Text → Option Text} {v v' : Text}
    (hkey : key ∈ keys template) (hother : ∀ other, other ≠ key → value other = value' other)
    (hv : value key = some v) (hv' : value' key = some v') (hlen : v.length < v'.length) :
    (fill value template).length < (fill value' template).length := by
  rw [fill, fill, List.length_flatMap, List.length_flatMap]
  refine List.sum_lt_sum _ _ (fun p _ => ?_) ⟨_, mem_keys_iff_mem_pieces.1 hkey, ?_⟩
  · cases p with
    | char c => exact Nat.le_refl 1
    | hole other =>
      by_cases heq : other = key
      · rw [heq, Piece.fill, Piece.fill, hv, hv']
        exact Nat.le_of_lt hlen
      · rw [Piece.fill, Piece.fill, hother other heq]
  · rw [Piece.fill, Piece.fill, hv, hv']
    exact hlen

end

end Template

namespace Arguments

open Template

/-- Any arguments can be changed at a key of a template so that its text changes. -/
theorem exists_fill_ne {template key : Text} (hkey : key ∈ keys template) (arguments : Arguments) :
    ∃ changed : Arguments, (∀ other, other ≠ key → changed.lookup other = arguments.lookup other) ∧
      changed.fill template ≠ arguments.fill template := by
  let put : Text → Arguments := fun v => (key, .text v) :: arguments
  have hself : ∀ v, ((put v).lookup key).map Value.toText = some v := by
    intro v
    rw [List.lookup_cons_self, Option.map_some, Value.toText]
  have hother : ∀ v other, other ≠ key → (put v).lookup other = arguments.lookup other := by
    intro v other hne
    rw [List.lookup_cons, beq_eq_false_iff_ne.2 hne]
  -- two values of different lengths cannot both give the text that the arguments give
  have hlt : ((put []).fill template).length < ((put ['x']).fill template).length :=
    length_fill_lt hkey (fun other hne => by rw [hother [] other hne, hother ['x'] other hne])
      (hself []) (hself ['x']) Nat.zero_lt_one
  by_cases hsame : (put []).fill template = arguments.fill template
  · refine ⟨put ['x'], hother ['x'], fun h => ?_⟩
    rw [h, hsame] at hlt
    exact Nat.lt_irrefl _ hlt
  · exact ⟨put [], hother [], hsame⟩

/-- **Filling is one substitution.**  The holes of a template are apart from each other. Filling
puts what is written for its key into each of them, if there is something to write, and keeps all
the rest of the template. The keys of the template are those of its holes, each once, in the order
of their first holes; arguments that agree on them give the same text, and each of them matters. -/
theorem fill_holes (template : Text) :
    (∀ before key after before' key' after',
      HoleAt template before key after → HoleAt template before' key' after' →
        (before = before' ∧ key = key' ∧ after = after') ∨
          before ++ (Piece.hole key).source <+: before' ∨
            before' ++ (Piece.hole key').source <+: before) ∧
    (∃ ps, IsCut template ps ∧ ∀ arguments : Arguments,
      arguments.fill template =
        ps.flatMap (Piece.fill fun key => (arguments.lookup key).map Value.toText)) ∧
    ((keys template).Nodup ∧ (keys template).Pairwise (Precedes template) ∧
      ∀ key, key ∈ keys template ↔ ∃ before after, HoleAt template before key after) ∧
    (∀ arguments arguments' : Arguments,
      (∀ key ∈ keys template, arguments.lookup key = arguments'.lookup key) →
        arguments.fill template = arguments'.fill template) ∧
    ∀ key ∈ keys template, ∀ arguments : Arguments, ∃ changed : Arguments,
      (∀ other, other ≠ key → changed.lookup other = arguments.lookup other) ∧
        changed.fill template ≠ arguments.fill template := by
  have hcut := isCut_pieces template
  refine ⟨fun _ _ _ _ _ _ => hcut.disjoint, ⟨_, hcut, fun _ => rfl⟩,
    ⟨(pairwise_precedes_keys template).imp Precedes.ne, pairwise_precedes_keys template,
      fun _ => mem_keys_iff⟩, fun arguments arguments' h => ?_, fun _ => exists_fill_ne⟩
  refine fill_congr fun key hkey => ?_
  rw [h key hkey]

/-- A template with braces around and between its holes, two of which have the same key. -/
def nestedBraces : Text := "\x7b\x7ba\x7d\x7d \x7bb\x7d\x7ba\x7bb\x7d\x7d"

/-- A value that is written like a hole, and one for a key that the template does not have. -/
def spareArguments : Arguments := [("a", .text "\x7bb\x7d"), ("c", .text "d")]

theorem fill_holes_nestedBraces :
    (HoleAt nestedBraces "\x7b" "a" "\x7d \x7bb\x7d\x7ba\x7bb\x7d\x7d" ∧
      HoleAt nestedBraces "\x7b\x7ba\x7d\x7d \x7bb\x7d\x7ba" "b" "\x7d" ∧
      "\x7b".toList ++ (Piece.hole "a").source <+: "\x7b\x7ba\x7d\x7d \x7bb\x7d\x7ba".toList) ∧
    ((∀ key ∈ keys nestedBraces,
        spareArguments.lookup key = (spareArguments.take 1).lookup key) ∧
      spareArguments.fill nestedBraces = Arguments.fill (spareArguments.take 1) nestedBraces) ∧
    "b".toList ∈ keys nestedBraces ∧ ∃ changed : Arguments,
      (∀ other, other ≠ "b".toList → changed.lookup other = spareArguments.lookup other) ∧
        changed.fill nestedBraces ≠ spareArguments.fill nestedBraces := by
  obtain ⟨hapart, -, -, hagree, hmatters⟩ := fill_holes nestedBraces
  have hfirst : HoleAt nestedBraces "\x7b" "a" "\x7d \x7bb\x7d\x7ba\x7bb\x7d\x7d" :=
    ⟨by decide, List.all_eq_true.1 rfl, rfl⟩
  have hlast : HoleAt nestedBraces "\x7b\x7ba\x7d\x7d \x7bb\x7d\x7ba" "b" "\x7d" :=
    ⟨by decide, List.all_eq_true.1 rfl, rfl⟩
  have hkeys : keys nestedBraces = ["a".toList, "b".toList] := by decide +kernel
  have hlookup : ∀ key ∈ keys nestedBraces,
      spareArguments.lookup key = (spareArguments.take 1).lookup key := by
    rw [hkeys, List.forall_mem_cons, List.forall_mem_singleton]
    exact ⟨rfl, rfl⟩
  have hmem : "b".toList ∈ keys nestedBraces := by
    rw [hkeys]
    exact List.mem_cons_of_mem _ (List.mem_singleton_self _)
  refine ⟨⟨hfirst, hlast, ?_⟩, ⟨hlookup, hagree _ _ hlookup⟩, hmem, hmatters _ hmem _⟩
  rcases hapart _ _ _ _ _ _ hfirst hlast with hsame | hfront | hbehind
  · exact absurd hsame.2.1 (by decide)
  · exact hfront
  · exact absurd hbehind.length_le (by decide)

end Arguments

end DiagnosticHints
