import DiagnosticHints.Text.Basic
import Mathlib.Data.List.Infix

/-!
# First and last occurrences

What the searches of `Text` find, said without the searches: the text before a first occurrence
does not hold the marker, the text behind a last one does not either. A marker here is a text
`c :: m` whose first character does not stand in it again, so that two of its occurrences never
overlap; every marker the library looks for is of this kind.
-/

namespace DiagnosticHints

namespace Text

/-! ## The first occurrence -/

/-- An occurrence that starts before a marker does not reach into it. -/
theorem prefix_of_prefix_append_marker {c : Char} {m before after : Text} (hm : c ∉ m)
    (hne : before ≠ []) (h : c :: m <+: before ++ (c :: m ++ after)) : c :: m <+: before := by
  rcases List.prefix_or_prefix_of_prefix h (List.prefix_append _ _) with hp | ⟨w, hw⟩
  · exact hp
  · -- otherwise the marker is `before` and more, and what is more starts with `c` again
    cases w with
    | nil =>
      rw [List.append_nil] at hw
      rw [hw]
    | cons d w =>
      rw [← hw, List.prefix_append_right_inj, hw, List.cons_append, List.cons_prefix_cons] at h
      obtain ⟨b, bs, rfl⟩ := List.exists_cons_of_ne_nil hne
      rw [List.cons_append, List.cons.injEq] at hw
      refine absurd ?_ hm
      rw [← hw.2, h.1]
      exact List.mem_append_right _ List.mem_cons_self

/-- A marker is found where the text before it does not hold it. -/
theorem splitFirst?_append {c : Char} {m before : Text} (hm : c ∉ m)
    (hb : ¬ c :: m <:+: before) (after : Text) :
    splitFirst? (c :: m) (before ++ (c :: m ++ after)) = some (before, after) := by
  induction before with
  | nil => simp [splitFirst?, List.isPrefixOf_iff_prefix]
  | cons b before ih =>
    rw [List.infix_cons_iff, not_or] at hb
    have hp : ¬ c :: m <+: b :: before ++ (c :: m ++ after) := fun h =>
      hb.1 (prefix_of_prefix_append_marker hm (by simp) h)
    rw [List.cons_append] at hp ⊢
    rw [splitFirst?, if_neg (by rwa [List.isPrefixOf_iff_prefix]), ih hb.2]
    rfl

/-- The marker stands behind the text before it, and nowhere earlier. -/
theorem splitFirst?_eq_some_iff {marker t before after : Text} :
    splitFirst? marker t = some (before, after) ↔
      before ++ (marker ++ after) = t ∧
        ∀ earlier, earlier ++ marker <+: t → before.length ≤ earlier.length := by
  induction t generalizing before with
  | nil =>
    rw [splitFirst?]
    cases marker with
    | nil =>
      rw [List.isEmpty_nil, if_pos rfl, Option.some.injEq, Prod.mk.injEq, List.nil_append,
        List.append_eq_nil_iff]
      constructor
      · rintro ⟨rfl, rfl⟩
        exact ⟨⟨rfl, rfl⟩, fun earlier _ => Nat.zero_le _⟩
      · rintro ⟨⟨rfl, rfl⟩, -⟩
        exact ⟨rfl, rfl⟩
    | cons => simp
  | cons c t ih =>
    rw [splitFirst?]
    by_cases hfront : marker <+: c :: t
    · obtain ⟨rest, hrest⟩ := hfront
      have hp : marker.isPrefixOf (c :: t) = true := List.isPrefixOf_iff_prefix.2 ⟨rest, hrest⟩
      rw [if_pos hp, ← hrest, List.drop_left, Option.some.injEq, Prod.mk.injEq]
      constructor
      · rintro ⟨rfl, rfl⟩
        exact ⟨rfl, fun earlier _ => Nat.zero_le _⟩
      · rintro ⟨happend, hfirst⟩
        obtain rfl := List.length_eq_zero_iff.1 (Nat.le_zero.1 (hfirst [] ⟨rest, rfl⟩))
        exact ⟨rfl, List.append_cancel_left happend.symm⟩
    · rw [if_neg (by rwa [List.isPrefixOf_iff_prefix]), Option.map_eq_some_iff]
      constructor
      · rintro ⟨⟨b, a⟩, hs, heq⟩
        obtain ⟨rfl, rfl⟩ := Prod.mk.inj heq
        obtain ⟨rfl, hfirst⟩ := ih.1 hs
        refine ⟨rfl, fun earlier hearlier => ?_⟩
        cases earlier with
        | nil => exact absurd hearlier hfront
        | cons d earlier =>
          exact Nat.succ_le_succ (hfirst earlier (List.cons_prefix_cons.1 hearlier).2)
      · rintro ⟨happend, hfirst⟩
        cases before with
        | nil => exact absurd ⟨after, happend⟩ hfront
        | cons b before =>
          obtain ⟨rfl, rfl⟩ := List.cons.inj happend
          refine ⟨(before, after), ih.2 ⟨rfl, fun earlier hearlier => ?_⟩, rfl⟩
          exact Nat.le_of_succ_le_succ
            (hfirst (b :: earlier) (List.cons_prefix_cons.2 ⟨rfl, hearlier⟩))

theorem splitFirst?_eq_none_iff {marker t : Text} (hm : marker ≠ []) :
    splitFirst? marker t = none ↔ ¬ marker <:+: t := by
  induction t with
  | nil => simp [splitFirst?, hm]
  | cons c t ih =>
    rw [splitFirst?, List.infix_cons_iff, ← List.isPrefixOf_iff_prefix]
    by_cases hp : marker.isPrefixOf (c :: t) = true
    · simp [hp]
    · simp [hp, ih]

/-- The text before a first occurrence does not hold the marker. -/
theorem not_infix_of_splitFirst? {marker t before after : Text} (hm : marker ≠ [])
    (h : splitFirst? marker t = some (before, after)) : ¬ marker <:+: before := by
  rintro ⟨earlier, between, hbefore⟩
  obtain ⟨rfl, hfirst⟩ := splitFirst?_eq_some_iff.1 h
  have hle := hfirst earlier ⟨between ++ (marker ++ after), by rw [← hbefore]; simp⟩
  have hpos := List.length_pos_iff.2 hm
  have hlength := congrArg List.length hbefore
  simp only [List.length_append] at hlength
  omega

/-- A single character is found where the text before it does not hold it. -/
theorem splitFirst?_char {c : Char} {before : Text} (hb : c ∉ before) (after : Text) :
    splitFirst? [c] (before ++ c :: after) = some (before, after) :=
  splitFirst?_append (by simp) (by rwa [List.singleton_infix_iff]) after

theorem splitFirst?_char_eq_some_iff {c : Char} {t before after : Text} :
    splitFirst? [c] t = some (before, after) ↔ t = before ++ c :: after ∧ c ∉ before := by
  constructor
  · intro h
    have hnot := not_infix_of_splitFirst? (List.cons_ne_nil c []) h
    rw [List.singleton_infix_iff] at hnot
    exact ⟨by rw [← append_of_splitFirst? h, List.append_assoc, List.singleton_append], hnot⟩
  · rintro ⟨rfl, hnot⟩
    exact splitFirst?_char hnot after

/-- What was found stays the first occurrence when the text goes on. -/
theorem splitFirst?_append_right {marker t before after : Text}
    (h : splitFirst? marker t = some (before, after)) (s : Text) :
    splitFirst? marker (t ++ s) = some (before, after ++ s) := by
  obtain ⟨rfl, hfirst⟩ := splitFirst?_eq_some_iff.1 h
  refine splitFirst?_eq_some_iff.2 ⟨by simp, fun earlier hearlier => ?_⟩
  -- an earlier occurrence would end before the one that was found, and so in the text
  by_contra hlt
  refine hlt (hfirst earlier
    (List.prefix_of_prefix_length_le hearlier (List.prefix_append _ s) ?_))
  simp only [List.length_append]
  omega

/-! ## The pieces between the occurrences of a character -/

theorem not_mem_of_mem_splitOn {c : Char} {piece t : Text} (h : piece ∈ t.splitOn c) :
    c ∉ piece := by
  induction t generalizing piece with
  | nil =>
    rw [List.splitOn_nil, List.mem_singleton] at h
    simp [h]
  | cons d t ih =>
    obtain ⟨first, others, hsplit⟩ := List.exists_cons_of_ne_nil (List.splitOn_ne_nil c t)
    rw [List.splitOn_cons_eq_if_modifyHead, hsplit] at h
    rw [hsplit] at ih
    by_cases hd : d = c
    · rw [if_pos (by simpa using hd)] at h
      rcases List.mem_cons.1 h with rfl | h
      · exact List.not_mem_nil
      · exact ih h
    · rw [if_neg (by simpa using hd), List.modifyHead_cons] at h
      rcases List.mem_cons.1 h with rfl | h
      · rw [List.mem_cons, not_or]
        exact ⟨Ne.symm hd, ih List.mem_cons_self⟩
      · exact ih (List.mem_cons_of_mem _ h)

/-- A piece stands in the text as it is. -/
theorem infix_of_mem_splitOn {c : Char} {piece t : Text} (h : piece ∈ t.splitOn c) :
    piece <:+: t := by
  obtain ⟨i, hi, rfl⟩ := List.getElem_of_mem h
  have hmem : (t.splitOn c)[i] ∈ (t.splitOn c).intersperse [c] := by
    rw [List.getElem_eq_getElem_intersperse_two_mul]
    exact List.getElem_mem _
  have hinfix := List.infix_of_mem_flatten hmem
  rwa [← List.intercalate, List.intercalate_splitOn] at hinfix

/-! ## The last occurrence -/

theorem afterLast?_eq_none_iff {marker t : Text} (hm : marker ≠ []) :
    afterLast? marker t = none ↔ ¬ marker <:+: t := by
  induction t with
  | nil => simp [afterLast?, hm]
  | cons c t ih =>
    rw [afterLast?, List.infix_cons_iff, not_or, ← ih, ← List.isPrefixOf_iff_prefix]
    cases afterLast? marker t <;> simp

/-- An occurrence does not start where its first character is missing. -/
theorem infix_of_infix_append {c : Char} {m before after : Text} (hb : c ∉ before)
    (h : c :: m <:+: before ++ after) : c :: m <:+: after := by
  induction before with
  | nil => exact h
  | cons d before ih =>
    rw [List.mem_cons, not_or] at hb
    rw [List.cons_append, List.infix_cons_iff] at h
    rcases h with hp | hin
    · exact absurd (List.cons_prefix_cons.1 hp).1 hb.1
    · exact ih hb.2 hin

/-- What is found is behind an occurrence of the marker and does not hold it. -/
theorem exists_of_afterLast? {marker t rest : Text} (hm : marker ≠ [])
    (h : afterLast? marker t = some rest) :
    ∃ before, t = before ++ (marker ++ rest) ∧ ¬ marker <:+: rest := by
  induction t with
  | nil => simp [afterLast?, hm] at h
  | cons c t ih =>
    rw [afterLast?] at h
    cases hlast : afterLast? marker t with
    | some later =>
      rw [hlast] at h
      obtain ⟨before, ht, hrest⟩ := ih (hlast.trans h)
      exact ⟨c :: before, by rw [ht, List.cons_append], hrest⟩
    | none =>
      rw [hlast] at h
      dsimp only at h
      split at h
      · next hp =>
        obtain ⟨behind, hbehind⟩ := List.isPrefixOf_iff_prefix.1 hp
        rw [← hbehind, List.drop_left, Option.some.injEq] at h
        subst h
        refine ⟨[], hbehind.symm, ?_⟩
        -- a further occurrence would be one in the rest of the text
        obtain ⟨d, m, rfl⟩ := List.exists_cons_of_ne_nil hm
        have ht : t = m ++ behind := (List.cons.inj hbehind).2.symm
        intro hin
        rw [afterLast?_eq_none_iff hm, ht] at hlast
        exact hlast (hin.trans (List.suffix_append m behind).isInfix)
      · cases h

/-- A marker is found last where no further occurrence starts behind its first character. -/
theorem afterLast?_append {c : Char} {m after : Text} (h : ¬ c :: m <:+: m ++ after)
    (before : Text) : afterLast? (c :: m) (before ++ (c :: m ++ after)) = some after := by
  induction before with
  | nil =>
    have hnone := (afterLast?_eq_none_iff (by simp)).2 h
    rw [List.nil_append, List.cons_append, afterLast?, hnone]
    simp [List.isPrefixOf_iff_prefix]
  | cons b before ih => rw [List.cons_append, afterLast?, ih]

end Text

end DiagnosticHints
