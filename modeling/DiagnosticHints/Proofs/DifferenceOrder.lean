import DiagnosticHints.Message.ObjectType
import Mathlib.Data.List.Nodup

/-!
# The order of differences

Two maps differ in the properties that both have with different types, and these are listed in the
order of their UTF-16 units. There is one such list only, so it is settled by what the maps hold and
not by the order in which it was put in; and where the two maps change places, each difference has
its two types the other way round.
-/

namespace DiagnosticHints

namespace Text

/-! ## The order of texts -/

/-- The units of a text tell its first character and the units behind it. -/
theorem charUnits_append_inj {c d : Char} {u v : List Nat}
    (h : charUnits c ++ u = charUnits d ++ v) : c = d ∧ u = v := by
  have hc := c.valid
  have hd := d.valid
  have hcd : c.toNat = d.toNat → c = d := Char.toNat_inj.1
  simp only [UInt32.isValidChar, Nat.isValidChar] at hc hd
  change c.toNat < _ ∨ _ < c.toNat ∧ c.toNat < _ at hc
  change d.toNat < _ ∨ _ < d.toNat ∧ d.toNat < _ at hd
  unfold charUnits at h
  -- the first unit of a pair lies where no single unit does
  split_ifs at h with hc' hd' hd'
  · rw [List.singleton_append, List.singleton_append, List.cons.injEq] at h
    exact ⟨hcd h.1, h.2⟩
  · simp only [List.cons_append, List.nil_append, List.cons.injEq] at h
    omega
  · simp only [List.cons_append, List.nil_append, List.cons.injEq] at h
    omega
  · simp only [List.cons_append, List.nil_append, List.cons.injEq] at h
    exact ⟨hcd (by omega), h.2.2⟩

/-- Different texts have different units. -/
theorem codeUnits_injective : Function.Injective codeUnits := by
  intro a b h
  induction a generalizing b with
  | nil =>
    cases b with
    | nil => rfl
    | cons d b =>
      have hpos := units_pos (List.cons_ne_nil d b)
      rw [units, ← h] at hpos
      exact absurd hpos (Nat.lt_irrefl 0)
  | cons c a ih =>
    cases b with
    | nil =>
      have hpos := units_pos (List.cons_ne_nil c a)
      rw [units, h] at hpos
      exact absurd hpos (Nat.lt_irrefl 0)
    | cons d b =>
      rw [codeUnits, codeUnits, List.flatMap_cons, List.flatMap_cons] at h
      obtain ⟨rfl, hrest⟩ := charUnits_append_inj h
      rw [ih hrest]

theorem unitsLe_iff {a b : Text} : unitsLe a b = true ↔ ¬ codeUnits b < codeUnits a := by
  have hblt : Nat.blt = fun x y => decide (x < y) := by
    funext x y
    rw [Bool.eq_iff_iff, Nat.blt_eq, decide_eq_true_eq]
  rw [unitsLe, Bool.not_eq_true', ← Bool.not_eq_true, hblt, List.lex_eq_true_iff_lt]

theorem unitsLe_trans (a b c : Text) (hab : unitsLe a b = true) (hbc : unitsLe b c = true) :
    unitsLe a c = true := by
  rw [unitsLe_iff] at hab hbc ⊢
  exact List.le_trans (α := Nat) hab hbc

theorem unitsLe_total (a b : Text) : (unitsLe a b || unitsLe b a) = true := by
  rw [Bool.or_eq_true, unitsLe_iff, unitsLe_iff]
  exact List.le_total (α := Nat) _ _

/-- Of two different texts in order, the first one is smaller. -/
theorem lt_of_unitsLe_of_ne {a b : Text} (h : unitsLe a b = true) (hne : a ≠ b) :
    codeUnits a < codeUnits b := by
  by_contra hnot
  exact hne (codeUnits_injective (List.le_antisymm (α := Nat) (unitsLe_iff.1 h) hnot))

end Text

namespace PropertyMap

/-! ## What the differences are -/

section

variable {provided expected provided' expected' : PropertyMap} {x : PropertyDifference}
  {xs ys : List PropertyDifference}

/-- A map holds the pairs that it was made of. -/
theorem get?_eq_some_iff {m : PropertyMap} {property type : Text} :
    m.get? property = some type ↔ (property, type) ∈ m.toList := by
  constructor
  · exact Text.mem_of_lookup
  · intro hmem
    obtain ⟨value, hvalue, hin⟩ := Text.exists_lookup_of_mem_keys (List.mem_map_of_mem hmem)
    have heq := List.inj_on_of_nodup_map m.nodup_keys hin hmem rfl
    rw [get?, hvalue, (Prod.mk.inj heq).2]

/-- The order of the pairs in a map does not matter to what it holds. -/
theorem get?_of_perm (h : provided'.toList.Perm provided.toList) (property : Text) :
    provided'.get? property = provided.get? property := by
  ext type
  rw [get?_eq_some_iff, get?_eq_some_iff, h.mem_iff]

/-- Strictly ascending by the units of the properties. -/
def Ascending (xs : List PropertyDifference) : Prop :=
  xs.Pairwise fun x y => Text.codeUnits x.property < Text.codeUnits y.property

instance (xs : List PropertyDifference) : Decidable (Ascending xs) :=
  inferInstanceAs (Decidable (List.Pairwise _ xs))

/-- Lists in ascending order are told apart by their members. -/
theorem Ascending.eq_of_mem_iff (hx : Ascending xs) (hy : Ascending ys)
    (h : ∀ x, x ∈ xs ↔ x ∈ ys) : xs = ys := by
  have hnodup : ∀ {zs : List PropertyDifference}, Ascending zs → zs.Nodup := by
    intro zs hz
    refine List.Pairwise.imp (fun {a b} hlt => ?_) hz
    rintro rfl
    exact List.lt_irrefl _ hlt
  have hperm := (List.perm_ext_iff_of_nodup (hnodup hx) (hnodup hy)).2 h
  exact hperm.eq_of_pairwise (fun a b _ _ hab hba => absurd hba (List.lt_asymm hab)) hx hy

/-- The difference of two maps at one property, if there is one. -/
def differenceAt? (provided expected : PropertyMap) (property : Text) : Option PropertyDifference :=
  match provided.get? property, expected.get? property with
  | some p, some e => if p = e then none else some ⟨property, p, e⟩
  | _, _ => none

theorem differences_eq (provided expected : PropertyMap) :
    provided.differences expected =
      (expected.keys.mergeSort Text.unitsLe).filterMap (differenceAt? provided expected) :=
  rfl

theorem differenceAt?_eq_some_iff {property : Text} :
    differenceAt? provided expected property = some x ↔
      x.property = property ∧ provided.get? property = some x.provided ∧
        expected.get? property = some x.expected ∧ x.provided ≠ x.expected := by
  obtain ⟨name, p', e'⟩ := x
  cases hp : provided.get? property with
  | none => simp [differenceAt?, hp]
  | some p =>
    cases he : expected.get? property with
    | none => simp [differenceAt?, hp, he]
    | some e =>
      by_cases heq : p = e
      · simp only [differenceAt?, hp, he, if_pos heq, Option.some.injEq]
        exact iff_of_false nofun fun ⟨_, hp', he', hne⟩ => hne (by rw [← hp', heq, he'])
      · simp only [differenceAt?, hp, he, if_neg heq, Option.some.injEq,
          PropertyDifference.mk.injEq]
        constructor
        · rintro ⟨rfl, rfl, rfl⟩
          exact ⟨rfl, rfl, rfl, heq⟩
        · rintro ⟨rfl, rfl, rfl, -⟩
          exact ⟨rfl, rfl, rfl⟩

/-- The properties that both maps have with different types differ, and no others. -/
theorem mem_differences : x ∈ provided.differences expected ↔
    provided.get? x.property = some x.provided ∧ expected.get? x.property = some x.expected ∧
      x.provided ≠ x.expected := by
  rw [differences_eq, List.mem_filterMap]
  constructor
  · rintro ⟨property, -, hx⟩
    obtain ⟨rfl, hdiffer⟩ := differenceAt?_eq_some_iff.1 hx
    exact hdiffer
  · intro hdiffer
    refine ⟨x.property, ?_, differenceAt?_eq_some_iff.2 ⟨rfl, hdiffer⟩⟩
    rw [List.mem_mergeSort]
    exact List.mem_map_of_mem (get?_eq_some_iff.1 hdiffer.2.1)

theorem ascending_differences : Ascending (provided.differences expected) := by
  have hsorted := List.pairwise_mergeSort Text.unitsLe_trans Text.unitsLe_total expected.keys
  have hnodup : (expected.keys.mergeSort Text.unitsLe).Nodup :=
    (List.mergeSort_perm expected.keys Text.unitsLe).nodup_iff.2 expected.nodup_keys
  rw [differences_eq]
  refine List.Pairwise.filterMap _ (fun a b hab x hx y hy => ?_) (hsorted.and hnodup)
  rw [(differenceAt?_eq_some_iff.1 hx).1, (differenceAt?_eq_some_iff.1 hy).1]
  exact Text.lt_of_unitsLe_of_ne hab.1 hab.2

/-- The order in which two maps were put together does not matter. -/
theorem differences_congr (hp : ∀ property, provided.get? property = provided'.get? property)
    (he : ∀ property, expected.get? property = expected'.get? property) :
    provided.differences expected = provided'.differences expected' := by
  refine ascending_differences.eq_of_mem_iff ascending_differences fun x => ?_
  rw [mem_differences, mem_differences, hp, he]

end

end PropertyMap

/-! ## Maps that change places -/

/-- The difference with its two types the other way round. -/
def PropertyDifference.swap (x : PropertyDifference) : PropertyDifference :=
  ⟨x.property, x.expected, x.provided⟩

@[simp] theorem PropertyDifference.swap_swap (x : PropertyDifference) : x.swap.swap = x := rfl

namespace PropertyMap

section

variable {provided expected : PropertyMap} {x : PropertyDifference} {xs : List PropertyDifference}

theorem Ascending.map_swap (h : Ascending xs) : Ascending (xs.map .swap) :=
  List.pairwise_map.2 h

theorem swap_mem_differences :
    x.swap ∈ expected.differences provided ↔ x ∈ provided.differences expected := by
  rw [mem_differences, mem_differences]
  constructor
  · rintro ⟨he, hp, hne⟩
    exact ⟨hp, he, hne.symm⟩
  · rintro ⟨hp, he, hne⟩
    exact ⟨he, hp, hne.symm⟩

theorem differences_swap :
    expected.differences provided = (provided.differences expected).map .swap := by
  refine ascending_differences.eq_of_mem_iff ascending_differences.map_swap fun x => ?_
  rw [List.mem_map]
  constructor
  · intro hx
    exact ⟨x.swap, swap_mem_differences.1 hx, x.swap_swap⟩
  · rintro ⟨y, hy, rfl⟩
    exact swap_mem_differences.2 hy

end

/-- **The differences are one list.**  Of all lists in strictly ascending order of the UTF-16 units
of the properties, it alone holds exactly the properties that both maps have with different types;
so the pairs of both maps may be put in in any order, and maps that change places have the same
differences with their types the other way round. -/
theorem differences_unique (provided expected : PropertyMap) :
    (∀ xs : List PropertyDifference, xs = provided.differences expected ↔
      Ascending xs ∧ ∀ x : PropertyDifference, x ∈ xs ↔
        provided.get? x.property = some x.provided ∧
          expected.get? x.property = some x.expected ∧ x.provided ≠ x.expected) ∧
    (∀ provided' expected' : PropertyMap, provided'.toList.Perm provided.toList →
      expected'.toList.Perm expected.toList →
        provided'.differences expected' = provided.differences expected) ∧
    expected.differences provided = (provided.differences expected).map .swap := by
  refine ⟨fun xs => ⟨?_, ?_⟩, fun provided' expected' hp he => ?_, differences_swap⟩
  · rintro rfl
    exact ⟨ascending_differences, fun x => mem_differences⟩
  · rintro ⟨hascending, hmem⟩
    refine hascending.eq_of_mem_iff ascending_differences fun x => ?_
    rw [hmem, mem_differences]
  · exact differences_congr (get?_of_perm hp) (get?_of_perm he)

/-- A property of one character beyond U+FFFF, and one of the character U+FF5E. -/
def emojiAndTilde : PropertyMap := .ofList [("～", "a"), ("😀", "b"), ("x", [])]

/-- The same properties in another order. -/
def tildeAndEmoji : PropertyMap := .ofList [("x", []), ("😀", "b"), ("～", "a")]

/-- Other types of these properties, and a property that is not provided. -/
def expectedTypes : PropertyMap := .ofList [("～", "b"), ("y", "c"), ("😀", []), ("x", [])]

/-- The same types in another order. -/
def shuffledTypes : PropertyMap := .ofList [("y", "c"), ("😀", []), ("x", []), ("～", "b")]

/-- The character beyond U+FFFF comes first, although its code point is the greater one. -/
theorem differences_unique_surrogates :
    (tildeAndEmoji.toList.Perm emojiAndTilde.toList ∧
      shuffledTypes.toList.Perm expectedTypes.toList) ∧
    [⟨"😀", "b", []⟩, ⟨"～", "a", "b"⟩] = emojiAndTilde.differences expectedTypes ∧
    "～".toList < "😀".toList ∧
    tildeAndEmoji.differences shuffledTypes = emojiAndTilde.differences expectedTypes ∧
    expectedTypes.differences emojiAndTilde =
      (emojiAndTilde.differences expectedTypes).map .swap := by
  have hprovided : tildeAndEmoji.toList.Perm emojiAndTilde.toList := by decide
  have hexpected : shuffledTypes.toList.Perm expectedTypes.toList := by decide
  have hmem : ∀ x : PropertyDifference, x ∈ [⟨"😀", "b", []⟩, ⟨"～", "a", "b"⟩] ↔
      emojiAndTilde.get? x.property = some x.provided ∧
        expectedTypes.get? x.property = some x.expected ∧ x.provided ≠ x.expected := by
    rintro ⟨property, provided, expected⟩
    have hp : emojiAndTilde.toList = [("～".toList, "a".toList), ("😀".toList, "b".toList),
      ("x".toList, [])] := by decide
    have he : expectedTypes.toList = [("～".toList, "b".toList), ("y".toList, "c".toList),
      ("😀".toList, []), ("x".toList, [])] := by decide
    simp only [get?_eq_some_iff, hp, he, List.mem_cons, List.not_mem_nil, or_false,
      PropertyDifference.mk.injEq, Prod.mk.injEq]
    constructor
    · rintro (⟨rfl, rfl, rfl⟩ | ⟨rfl, rfl, rfl⟩) <;> decide
    · rintro ⟨⟨rfl, rfl⟩ | ⟨rfl, rfl⟩ | ⟨rfl, rfl⟩, ⟨h, rfl⟩ | ⟨h, rfl⟩ | ⟨h, rfl⟩ | ⟨h, rfl⟩, hne⟩
        <;> revert h hne <;> decide
  obtain ⟨hunique, hshuffled, hswap⟩ := differences_unique emojiAndTilde expectedTypes
  exact ⟨⟨hprovided, hexpected⟩, (hunique _).2 ⟨by decide, hmem⟩, by decide,
    hshuffled tildeAndEmoji shuffledTypes hprovided hexpected, hswap⟩

end PropertyMap

end DiagnosticHints
