import DiagnosticHints.Message.Quoted
import DiagnosticHints.Proofs.Occurrences
import Mathlib.Data.List.TakeWhile

/-!
# The two types of an assignment

How a message about an assignment is read, said without searching in it: a type mark with no other
one in front of it, the text from there to the next apostrophe, and the text from the apostrophe
behind that to a further one or to the end of the message. A mark that starts the message is passed
over, so that the next one is read there; a message that starts otherwise is read at the first mark
it holds.
-/

namespace DiagnosticHints

namespace Text

variable {c : Char} {t before : Text}

/-- The text up to the next `c`, or up to its end. -/
theorem takeWhile_bne_eq_iff :
    t.takeWhile (· != c) = before ↔
      ∃ rest, t = before ++ rest ∧ c ∉ before ∧ (rest = [] ∨ rest.head? = some c) := by
  constructor
  · rintro rfl
    refine ⟨t.dropWhile (· != c), List.takeWhile_append_dropWhile.symm, fun hmem => ?_, ?_⟩
    · simpa using List.mem_takeWhile_imp hmem
    · have hstop := List.head?_dropWhile_not (· != c) t
      cases hrest : t.dropWhile (· != c) with
      | nil => exact Or.inl rfl
      | cons d rest =>
        rw [hrest] at hstop
        exact Or.inr (by simpa using hstop)
  · rintro ⟨rest, rfl, hnot, hrest⟩
    have hall : ∀ d ∈ before, (d != c) = true := fun d hd =>
      bne_iff_ne.2 fun heq => hnot (heq ▸ hd)
    rw [List.takeWhile_append_of_pos hall]
    rcases hrest with rfl | hhead
    · rw [List.takeWhile_nil, List.append_nil]
    · obtain ⟨behind, rfl⟩ := List.head?_eq_some_iff.1 hhead
      rw [List.takeWhile_cons, bne_self_eq_false, if_neg Bool.false_ne_true, List.append_nil]

end Text

namespace Message

variable {front message : Text} {types : Assignment}

/-! ## The decomposition of a message -/

/-- Behind `front` and a type mark the message quotes two types; the second one may lack its
closing apostrophe. -/
def QuotesBehind (front message : Text) (types : Assignment) : Prop :=
  ∃ between rest, message = front ++ (typeMark ++
      (types.source ++ quote :: (between ++ quote :: (types.target ++ rest)))) ∧
    quote ∉ types.source ∧ quote ∉ between ∧ quote ∉ types.target ∧
      (rest = [] ∨ rest.head? = some quote)

/-- The first type mark of the message stands behind `front`. -/
def FirstMark (front message : Text) : Prop :=
  front ++ typeMark <+: message ∧
    ∀ earlier, earlier ++ typeMark <+: message → front.length ≤ earlier.length

/-- The first type mark that does not start the message stands behind `front`. -/
def FirstInnerMark (front message : Text) : Prop :=
  front ≠ [] ∧ front ++ typeMark <+: message ∧
    ∀ earlier, earlier ≠ [] → earlier ++ typeMark <+: message → front.length ≤ earlier.length

/-! ## The searches for them -/

/-- The mark is searched for behind the first character of the message. -/
theorem exists_splitFirst?_drop_one {rest : Text} :
    (∃ before, Text.splitFirst? typeMark (message.drop 1) = some (before, rest)) ↔
      ∃ front, FirstInnerMark front message ∧ message = front ++ (typeMark ++ rest) := by
  cases message with
  | nil =>
    constructor
    · rintro ⟨before, hs⟩
      cases hs
    · rintro ⟨front, -, happend⟩
      exact absurd (List.append_eq_nil_iff.1 happend.symm).2 (List.cons_ne_nil _ _)
  | cons c t =>
    rw [List.drop_one, List.tail_cons]
    constructor
    · rintro ⟨before, hs⟩
      obtain ⟨rfl, hfirst⟩ := Text.splitFirst?_eq_some_iff.1 hs
      refine ⟨c :: before, ⟨List.cons_ne_nil c before, ⟨rest, by simp⟩, ?_⟩, rfl⟩
      intro earlier hne hearlier
      obtain ⟨d, earlier, rfl⟩ := List.exists_cons_of_ne_nil hne
      exact Nat.succ_le_succ (hfirst earlier (List.cons_prefix_cons.1 hearlier).2)
    · rintro ⟨front, ⟨hne, -, hfirst⟩, happend⟩
      obtain ⟨d, before, rfl⟩ := List.exists_cons_of_ne_nil hne
      obtain ⟨rfl, rfl⟩ := List.cons.inj happend
      refine ⟨before, Text.splitFirst?_eq_some_iff.2 ⟨rfl, fun earlier hearlier => ?_⟩⟩
      exact Nat.le_of_succ_le_succ (hfirst (c :: earlier) (List.cons_ne_nil c earlier)
        (List.cons_prefix_cons.2 ⟨rfl, hearlier⟩))

theorem assignment?_eq_some_iff_split :
    assignment? message = some types ↔
      ∃ before between rest, Text.splitFirst? typeMark (message.drop 1) = some (before,
          types.source ++ quote :: (between ++ quote :: (types.target ++ rest))) ∧
        quote ∉ types.source ∧ quote ∉ between ∧ quote ∉ types.target ∧
          (rest = [] ∨ rest.head? = some quote) := by
  simp only [assignment?, Text.afterFirst?, Option.bind_eq_bind, Option.bind_eq_some_iff,
    Option.map_eq_some_iff]
  constructor
  · rintro ⟨_, ⟨⟨before, behind⟩, hmark, rfl⟩, ⟨source, later⟩, hclose, _,
      ⟨⟨between, last⟩, hopen, rfl⟩, heq⟩
    obtain rfl := Option.some.inj heq
    obtain ⟨rfl, hsource⟩ := Text.splitFirst?_char_eq_some_iff.1 hclose
    obtain ⟨rfl, hbetween⟩ := Text.splitFirst?_char_eq_some_iff.1 hopen
    obtain ⟨rest, hlast, htarget, hend⟩ :=
      Text.takeWhile_bne_eq_iff.1 (rfl : last.takeWhile (· != quote) = _)
    rw [hlast] at hmark
    exact ⟨before, between, rest, hmark, hsource, hbetween, htarget, hend⟩
  · rintro ⟨before, between, rest, hmark, hsource, hbetween, htarget, hend⟩
    refine ⟨_, ⟨_, hmark, rfl⟩, _, Text.splitFirst?_char_eq_some_iff.2 ⟨rfl, hsource⟩, _,
      ⟨_, Text.splitFirst?_char_eq_some_iff.2 ⟨rfl, hbetween⟩, rfl⟩, ?_⟩
    rw [Text.takeWhile_bne_eq_iff.2 ⟨rest, rfl, htarget, hend⟩]
    rfl

theorem assignment?_eq_some_iff_quotesBehind :
    assignment? message = some types ↔
      ∃ front, FirstInnerMark front message ∧ QuotesBehind front message types := by
  rw [assignment?_eq_some_iff_split]
  constructor
  · rintro ⟨before, between, rest, hmark, hquotes⟩
    obtain ⟨front, hfirst, happend⟩ := exists_splitFirst?_drop_one.1 ⟨before, hmark⟩
    exact ⟨front, hfirst, between, rest, happend, hquotes⟩
  · rintro ⟨front, hfirst, between, rest, happend, hquotes⟩
    obtain ⟨before, hmark⟩ := exists_splitFirst?_drop_one.2 ⟨front, hfirst, happend⟩
    exact ⟨before, between, rest, hmark, hquotes⟩

/-- In a message that starts otherwise no mark is passed over. -/
theorem firstInnerMark_iff (h : ¬ typeMark <+: message) :
    FirstInnerMark front message ↔ FirstMark front message := by
  have hne : ∀ before, before ++ typeMark <+: message → before ≠ [] := by
    rintro _ hbefore rfl
    exact h hbefore
  constructor
  · rintro ⟨-, hmark, hfirst⟩
    exact ⟨hmark, fun earlier hearlier => hfirst earlier (hne earlier hearlier) hearlier⟩
  · rintro ⟨hmark, hfirst⟩
    exact ⟨hne front hmark, hmark, fun earlier _ => hfirst earlier⟩

/-- **Which types a message is read to assign.**  They are the two that are quoted behind the first
type mark that does not start the message, and none are found exactly where no two types are quoted
there; in a message that does not start with a mark, this is the first mark of all. -/
theorem assignment?_quotesBehind (message : Text) :
    (∀ types, assignment? message = some types ↔
      ∃ front, FirstInnerMark front message ∧ QuotesBehind front message types) ∧
    (assignment? message = none ↔
      ¬ ∃ front types, FirstInnerMark front message ∧ QuotesBehind front message types) ∧
    (¬ typeMark <+: message → ∀ types, assignment? message = some types ↔
      ∃ front, FirstMark front message ∧ QuotesBehind front message types) := by
  refine ⟨fun types => assignment?_eq_some_iff_quotesBehind, ?_, fun hstart types => ?_⟩
  · rw [Option.eq_none_iff_forall_ne_some, exists_comm, not_exists]
    exact forall_congr' fun types => not_congr assignment?_eq_some_iff_quotesBehind
  · rw [assignment?_eq_some_iff_quotesBehind]
    simp only [firstInnerMark_iff hstart]

/-- A source type of no characters, a type mark between the two types, and a target type that is not
closed. -/
def adjacentQuotes : Text := "Type ''ype '\x7b a: 'b"

theorem assignment?_quotesBehind_adjacent :
    ¬ typeMark <+: adjacentQuotes ∧ ∀ types, assignment? adjacentQuotes = some types ↔
      ∃ front, FirstMark front adjacentQuotes ∧ QuotesBehind front adjacentQuotes types :=
  have hstart : ¬ typeMark <+: adjacentQuotes := by decide
  ⟨hstart, (assignment?_quotesBehind adjacentQuotes).2.2 hstart⟩

/-- A mark that starts the message is not read, although it is the first one. -/
theorem not_forall_assignment?_firstMark :
    ¬ ∀ message types, assignment? message = some types ↔
      ∃ front, FirstMark front message ∧ QuotesBehind front message types := by
  intro h
  have hquotes : QuotesBehind [] "ype 'a' 'b'" ⟨"a", "b"⟩ :=
    ⟨[' '], [quote], rfl, by decide, by decide, by decide, Or.inr rfl⟩
  have hfirst : FirstMark [] "ype 'a' 'b'" := ⟨⟨"a' 'b'".toList, rfl⟩, fun _ _ => Nat.zero_le _⟩
  have hread := (h "ype 'a' 'b'" ⟨"a", "b"⟩).2 ⟨[], hfirst, hquotes⟩
  exact absurd hread (by decide)

end Message

end DiagnosticHints
