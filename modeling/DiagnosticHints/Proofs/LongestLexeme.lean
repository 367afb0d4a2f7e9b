import DiagnosticHints.Proofs.ClosedText

/-!
# Lexemes as long as they can be

What the lexeme at the head of a text is, said by its first character and without the functions that
look for it. A literal ends at the first quote that no backslash takes along, and its quote stands
alone exactly where there is none; a number and an identifier go on over all characters that may
belong to them; everything else is the longest operator of the list, or one character. This settles
the lexeme, so that a lexeme stays as it is whatever else is put behind it, as long as nothing of
that would belong to it.
-/

namespace DiagnosticHints

namespace Lexicon

variable {c quote : Char} {t body part tail rest rest' : Text} {p : Char → Bool}

/-! ## Literals -/

/-- The bodies of literals in a quote: pairs of a backslash and any character, and characters other
than the backslash and the quote. A line feed stands alone in templates only. -/
inductive IsBody (quote : Char) : Text → Prop
  | nil : IsBody quote []
  | escape {c : Char} {t : Text} : IsBody quote t → IsBody quote ('\\' :: c :: t)
  | char {c : Char} {t : Text} : c ≠ '\\' → c ≠ quote → (c = '\n' → quote = backtick) →
      IsBody quote t → IsBody quote (c :: t)

/-- The text behind an opening quote holds the quote that closes the literal. -/
def Closes (quote : Char) (t : Text) : Prop :=
  ∃ body rest, IsBody quote body ∧ t = body ++ quote :: rest

theorem closeLiteral?_of_isBody (h : IsBody quote body) (hquote : quote ≠ '\\') (rest : Text) :
    closeLiteral? quote (body ++ quote :: rest) = some (body ++ [quote], rest) := by
  induction h with
  | nil => rw [List.nil_append, closeLiteral?_of_ne hquote, if_pos rfl, List.nil_append]
  | escape _ ih =>
    rw [List.cons_append, List.cons_append, closeLiteral?_escape, ih]
    rfl
  | char hslash hne hline _ ih =>
    rw [List.cons_append, closeLiteral?_of_ne hslash, if_neg hne,
      if_neg fun h => h.2 (hline h.1), ih]
    rfl

theorem exists_isBody_of_closeLiteral? {closed : Text}
    (h : closeLiteral? quote t = some (closed, rest)) :
    ∃ body, IsBody quote body ∧ closed = body ++ [quote] := by
  induction t using literal_induction generalizing closed with
  | nil => cases h
  | lone => cases h
  | escape c t ih =>
    rw [closeLiteral?_escape, Option.map_eq_some_iff] at h
    obtain ⟨⟨closed, behind⟩, hclose, heq⟩ := h
    obtain ⟨rfl, rfl⟩ := Prod.mk.inj heq
    obtain ⟨body, hbody, rfl⟩ := ih hclose
    exact ⟨_, hbody.escape, rfl⟩
  | char c t hc ih =>
    rw [closeLiteral?_of_ne hc] at h
    split_ifs at h with hquote hline
    · obtain ⟨rfl, rfl⟩ := Prod.mk.inj (Option.some.inj h)
      exact ⟨[], .nil, by rw [hquote]; rfl⟩
    · rw [Option.map_eq_some_iff] at h
      obtain ⟨⟨closed, behind⟩, hclose, heq⟩ := h
      obtain ⟨rfl, rfl⟩ := Prod.mk.inj heq
      obtain ⟨body, hbody, rfl⟩ := ih hclose
      have hfeed : c = '\n' → quote = backtick := fun hc => by
        by_contra hne
        exact hline ⟨hc, hne⟩
      exact ⟨_, hbody.char hc hquote hfeed, rfl⟩

theorem ne_backslash_of_isQuote (h : isQuote c = true) : c ≠ '\\' := by
  rintro rfl
  cases h

theorem closeLiteral?_eq_none_iff (hquote : isQuote quote = true) :
    closeLiteral? quote t = none ↔ ¬ Closes quote t := by
  constructor
  · rintro hnone ⟨body, rest, hbody, rfl⟩
    rw [closeLiteral?_of_isBody hbody (ne_backslash_of_isQuote hquote)] at hnone
    cases hnone
  · intro hnot
    rw [Option.eq_none_iff_forall_ne_some]
    rintro ⟨closed, rest⟩ hclose
    obtain ⟨body, hbody, rfl⟩ := exists_isBody_of_closeLiteral? hclose
    refine hnot ⟨body, rest, hbody, ?_⟩
    rw [← append_of_closeLiteral? hclose, List.append_assoc, List.singleton_append]

/-! ## Runs of characters -/

/-- A part of a text extends over all characters of a class: it holds such characters only, and
the text behind it does not start with one. -/
structure ExtendsOver (p : Char → Bool) (part rest : Text) : Prop where
  all : ∀ c ∈ part, p c = true
  stop : ∀ c ∈ rest.head?, p c = false

theorem extendsOver_takeWhile (p : Char → Bool) (t : Text) :
    ExtendsOver p (t.takeWhile p) (t.dropWhile p) where
  all _ hc := List.all_eq_true.1 List.all_takeWhile _ hc
  stop c hc := by
    have hhead := List.head?_dropWhile_not p t
    rw [Option.mem_def.1 hc] at hhead
    exact Bool.eq_false_iff.2 (by simpa using hhead)

theorem ExtendsOver.takeWhile_append (h : ExtendsOver p part rest) :
    (part ++ rest).takeWhile p = part := by
  rw [List.takeWhile_append_of_pos h.all]
  cases rest with
  | nil => rw [List.takeWhile_nil, List.append_nil]
  | cons c rest =>
    rw [List.takeWhile_cons, h.stop c rfl, if_neg Bool.false_ne_true, List.append_nil]

theorem ExtendsOver.dropWhile_append (h : ExtendsOver p part rest) :
    (part ++ rest).dropWhile p = rest := by
  have happend := List.takeWhile_append_dropWhile (p := p) (l := part ++ rest)
  rw [h.takeWhile_append] at happend
  exact List.append_cancel_left happend

/-- A text starts with a point and a digit behind it. -/
def StartsFraction (t : Text) : Prop := ∃ d rest, d.isDigit = true ∧ t = '.' :: d :: rest

/-- What stands behind the first digit of a number: all characters of numbers, and then, exactly
where a point and a digit come next, the point and all characters of numbers behind it. -/
def ExtendsNumber (tail rest : Text) : Prop :=
  ∃ whole fraction, tail = whole ++ fraction ∧
    ExtendsOver isNumberPart whole (fraction ++ rest) ∧
      (fraction = [] ∧ ¬ StartsFraction rest ∨
        ∃ d more, d.isDigit = true ∧ fraction = '.' :: d :: more ∧
          ExtendsOver isNumberPart (d :: more) rest)

/-! ## Lexemes by their first character -/

/-- A lexeme of the characters `c` and `tail` is the longest one in front of `rest`. -/
structure Longest (c : Char) (tail rest : Text) : Prop where
  /-- A quote opens a literal, which ends with the quote that closes it, or stands alone. -/
  literal : isQuote c = true → (∃ body, IsBody c body ∧ tail = body ++ [c]) ∨ tail = []
  /-- A quote stands alone exactly where its literal is never closed. -/
  lone : isQuote c = true → (tail = [] ↔ ¬ Closes c (tail ++ rest))
  /-- A digit starts a number. -/
  number : c.isDigit = true → ExtendsNumber tail rest
  /-- An identifier extends over all of its characters. -/
  identifier : isIdentifierStart c = true → ExtendsOver isIdentifierPart tail rest
  /-- Everything else is the longest operator in front, or one character where there is none. -/
  punctuator : ¬ isQuote c = true → ¬ c.isDigit = true → ¬ isIdentifierStart c = true →
    c :: tail ∈ operators ∧
        (∀ operator ∈ operators, operator <+: c :: tail ++ rest →
          operator.length ≤ (c :: tail).length) ∨
      tail = [] ∧ ∀ operator ∈ operators, ¬ operator <+: c :: rest

/-! ## Characters -/

theorem toNat_of_isDigit (h : c.isDigit = true) : 0x30 ≤ c.toNat ∧ c.toNat ≤ 0x39 := by
  have hval : c.val.toNat = c.toNat := rfl
  simpa [Char.isDigit, UInt32.le_iff_toNat_le, hval] using h

theorem le_toNat_of_isLetter (h : Text.isLetter c = true) : 0x41 ≤ c.toNat := by
  rw [Text.isLetter, Bool.or_eq_true, Bool.and_eq_true, decide_eq_true_iff] at h
  rcases h with halpha | ⟨hlarge, -⟩
  · have halpha : (c.isUpper || c.isLower) = true := halpha
    rcases Bool.or_eq_true_iff.1 halpha with hupper | hlower
    · exact UInt32.le_iff_toNat_le.1 (of_decide_eq_true hupper).1
    · have hfirst := of_decide_eq_true (Bool.and_eq_true_iff.1 hlower).1
      exact Nat.le_trans (by decide) (UInt32.le_iff_toNat_le.1 hfirst)
  · exact Nat.le_trans (by decide) hlarge

theorem isSpace_of_isIdentifierPart (h : isIdentifierPart c = true) : isSpace c = false := by
  simp only [isIdentifierPart, Bool.or_eq_true, beq_iff_eq] at h
  rcases h with ((h | h) | rfl) | rfl
  · have := le_toNat_of_isLetter h
    exact decide_eq_false (by omega)
  · have := toNat_of_isDigit h
    exact decide_eq_false (by omega)
  · rfl
  · rfl

theorem isIdentifierPart_of_isNumberPart (h : isNumberPart c = true) :
    isIdentifierPart c = true := by
  rw [isIdentifierPart, ← isNumberPart, h, Bool.true_or]

theorem quote_cases (h : isQuote c = true) : c = backtick ∨ c = '\x22' ∨ c = '\x27' := by
  rwa [isQuote, Bool.or_eq_true, Bool.or_eq_true, beq_iff_eq, beq_iff_eq, beq_iff_eq,
    or_assoc] at h

theorem not_isSpace_of_isQuote (h : isQuote c = true) : ¬ isSpace c = true := by
  rcases quote_cases h with rfl | rfl | rfl <;> exact Bool.false_ne_true

theorem not_isDigit_of_isQuote (h : isQuote c = true) : ¬ c.isDigit = true := by
  rcases quote_cases h with rfl | rfl | rfl <;> exact Bool.false_ne_true

theorem not_isIdentifierStart_of_isQuote (h : isQuote c = true) :
    ¬ isIdentifierStart c = true := by
  rcases quote_cases h with rfl | rfl | rfl <;> exact Bool.false_ne_true

theorem not_isIdentifierStart_of_isDigit (h : c.isDigit = true) :
    ¬ isIdentifierStart c = true := by
  have hrange := toNat_of_isDigit h
  simp only [isIdentifierStart, Bool.or_eq_true, beq_iff_eq]
  rintro (((hletter | rfl) | rfl) | rfl)
  · have := le_toNat_of_isLetter hletter
    omega
  · cases h
  · cases h
  · cases h

/-! ## The first character settles the kind -/

theorem scan_quote (h : isQuote c = true) (t : Text) :
    scan c t =
      ((closeLiteral? c t).map fun (closed, rest) => (c :: closed, rest)).getD ([c], t) := by
  rw [scan, if_pos h]
  cases closeLiteral? c t <;> rfl

theorem scan_digit (h : c.isDigit = true) (t : Text) :
    scan c t = (c :: (numberTail t).1, (numberTail t).2) := by
  rw [scan, if_neg fun hquote => not_isDigit_of_isQuote hquote h, if_pos h]

theorem scan_identifier (h : isIdentifierStart c = true) (t : Text) :
    scan c t = (c :: t.takeWhile isIdentifierPart, t.dropWhile isIdentifierPart) := by
  rw [scan, if_neg fun hquote => not_isIdentifierStart_of_isQuote hquote h,
    if_neg fun hdigit => not_isIdentifierStart_of_isDigit hdigit h, if_pos h]

theorem scan_punctuator (hquote : ¬ isQuote c = true) (hdigit : ¬ c.isDigit = true)
    (hstart : ¬ isIdentifierStart c = true) (t : Text) : scan c t = punctuator c t := by
  rw [scan, if_neg hquote, if_neg hdigit, if_neg hstart]

/-! ## Numbers -/

theorem numberTail_of_startsFraction {whole more : Text} {d : Char}
    (hwhole : ExtendsOver isNumberPart whole ('.' :: d :: more ++ rest)) (hd : d.isDigit = true)
    (hmore : ExtendsOver isNumberPart (d :: more) rest) :
    numberTail (whole ++ ('.' :: d :: more ++ rest)) = (whole ++ '.' :: d :: more, rest) := by
  have hbehind : ExtendsOver isNumberPart more rest :=
    ⟨fun c hc => hmore.all c (List.mem_cons_of_mem _ hc), hmore.stop⟩
  rw [numberTail, hwhole.takeWhile_append, hwhole.dropWhile_append]
  simp only [List.cons_append, hd, if_true, hbehind.takeWhile_append, hbehind.dropWhile_append]

theorem numberTail_of_not_startsFraction {whole : Text}
    (hwhole : ExtendsOver isNumberPart whole rest) (hrest : ¬ StartsFraction rest) :
    numberTail (whole ++ rest) = (whole, rest) := by
  rw [numberTail, hwhole.takeWhile_append, hwhole.dropWhile_append]
  split
  · next d behind =>
    have hd : ¬ d.isDigit = true := fun hd => hrest ⟨d, behind, hd, rfl⟩
    rw [if_neg hd]
  · rfl

theorem ExtendsNumber.numberTail_append (h : ExtendsNumber tail rest) :
    numberTail (tail ++ rest) = (tail, rest) := by
  obtain ⟨whole, fraction, rfl, hwhole, ⟨rfl, hnot⟩ | ⟨d, more, hd, rfl, hmore⟩⟩ := h
  · rw [List.nil_append] at hwhole
    rw [List.append_nil, numberTail_of_not_startsFraction hwhole hnot]
  · rw [List.append_assoc, numberTail_of_startsFraction hwhole hd hmore]

/-- Every text starts with what may stand behind the first digit of a number. -/
theorem exists_extendsNumber (t : Text) :
    ∃ tail rest, tail ++ rest = t ∧ ExtendsNumber tail rest := by
  have hwhole := extendsOver_takeWhile isNumberPart t
  have happend := List.takeWhile_append_dropWhile (p := isNumberPart) (l := t)
  by_cases hfraction : StartsFraction (t.dropWhile isNumberPart)
  · obtain ⟨d, behind, hd, heq⟩ := hfraction
    have hbehind := extendsOver_takeWhile isNumberPart behind
    have hmore : ExtendsOver isNumberPart (d :: behind.takeWhile isNumberPart)
        (behind.dropWhile isNumberPart) :=
      ⟨List.forall_mem_cons.2 ⟨by rw [isNumberPart, hd]; simp, hbehind.all⟩, hbehind.stop⟩
    have hsplit : t.dropWhile isNumberPart =
        '.' :: d :: behind.takeWhile isNumberPart ++ behind.dropWhile isNumberPart := by
      rw [heq, List.cons_append, List.cons_append, List.takeWhile_append_dropWhile]
    rw [hsplit] at hwhole happend
    exact ⟨_, _, by rw [List.append_assoc, happend],
      _, _, rfl, hwhole, Or.inr ⟨d, _, hd, rfl, hmore⟩⟩
  · exact ⟨_, _, happend, _, [], (List.append_nil _).symm, hwhole, Or.inl ⟨rfl, hfraction⟩⟩

theorem extendsNumber_numberTail (t : Text) :
    ExtendsNumber (numberTail t).1 (numberTail t).2 := by
  obtain ⟨tail, rest, rfl, h⟩ := exists_extendsNumber t
  rwa [h.numberTail_append]

/-! ## Operators -/

/-- The operator found is the longest one in front of the text, since no operator stands in the
list behind one of its beginnings. -/
theorem length_le_of_find? {operator : Text}
    (h : operators.find? (·.isPrefixOf t) = some operator) :
    ∀ other ∈ operators, other <+: t → other.length ≤ operator.length := by
  have hsorted : operators.Pairwise fun a b => a <+: b → b.length ≤ a.length := by
    decide +kernel
  obtain ⟨hp, before, behind, heq, hbefore⟩ := List.find?_eq_some_iff_append.1 h
  rw [List.isPrefixOf_iff_prefix] at hp
  intro other hother hfront
  rw [heq] at hother hsorted
  rcases List.mem_append.1 hother with hmem | hmem
  · have hnot := hbefore other hmem
    rw [List.isPrefixOf_iff_prefix.2 hfront] at hnot
    cases hnot
  · rcases List.mem_cons.1 hmem with rfl | hmem
    · exact Nat.le_refl _
    · by_contra hlt
      have hshort := List.prefix_of_prefix_length_le hp hfront (by omega)
      have hpairs := (List.pairwise_cons.1 (List.pairwise_append.1 hsorted).2.1).1
      exact hlt (hpairs other hmem hshort)

theorem isSpace_of_mem_operator {operator : Text} (h : operator ∈ operators) :
    ∀ c ∈ operator, isSpace c = false := by
  have hall : ∀ operator ∈ operators, (operator.any isSpace) = false := by decide +kernel
  simpa using hall operator h

/-- Two operators in front of a text that are as long as each other are the same. -/
theorem punctuator_of_mem {operator : Text} (hmem : operator ∈ operators)
    (happend : operator ++ rest = c :: t)
    (hlongest : ∀ other ∈ operators, other <+: c :: t → other.length ≤ operator.length) :
    punctuator c t = (operator, rest) := by
  have hfront : operator <+: c :: t := ⟨rest, happend⟩
  cases hfind : operators.find? (·.isPrefixOf (c :: t)) with
  | none =>
    have hnot := List.find?_eq_none.1 hfind operator hmem
    exact absurd (List.isPrefixOf_iff_prefix.2 hfront) hnot
  | some found =>
    have hfound : found <+: c :: t :=
      List.isPrefixOf_iff_prefix.1 (by simpa using List.find?_some hfind)
    have hle := hlongest found (List.mem_of_find?_eq_some hfind) hfound
    have hge := length_le_of_find? hfind operator hmem hfront
    obtain rfl := (List.prefix_of_prefix_length_le hfound hfront hle).eq_of_length
      (Nat.le_antisymm hle hge)
    rw [punctuator, hfind, ← happend]
    simp only [List.drop_left]

theorem punctuator_of_forall_not (h : ∀ operator ∈ operators, ¬ operator <+: c :: t) :
    punctuator c t = ([c], t) := by
  have hfind : operators.find? (·.isPrefixOf (c :: t)) = none :=
    List.find?_eq_none.2 fun operator hmem hp =>
      h operator hmem (List.isPrefixOf_iff_prefix.1 hp)
  rw [punctuator, hfind]

/-! ## The description settles the lexeme -/

/-- The longest lexeme is the one that is found. -/
theorem Longest.scan_eq (h : Longest c tail rest) : scan c (tail ++ rest) = (c :: tail, rest) := by
  by_cases hquote : isQuote c = true
  · rw [scan_quote hquote]
    rcases h.literal hquote with ⟨body, hbody, rfl⟩ | rfl
    · rw [List.append_assoc, List.singleton_append,
        closeLiteral?_of_isBody hbody (ne_backslash_of_isQuote hquote)]
      rfl
    · have hnone := (closeLiteral?_eq_none_iff hquote).2 ((h.lone hquote).1 rfl)
      rw [hnone]
      rfl
  by_cases hdigit : c.isDigit = true
  · rw [scan_digit hdigit, (h.number hdigit).numberTail_append]
  by_cases hstart : isIdentifierStart c = true
  · have hpart := h.identifier hstart
    rw [scan_identifier hstart, hpart.takeWhile_append, hpart.dropWhile_append]
  rw [scan_punctuator hquote hdigit hstart]
  rcases h.punctuator hquote hdigit hstart with ⟨hmem, hlongest⟩ | ⟨rfl, hnot⟩
  · exact punctuator_of_mem hmem rfl hlongest
  · exact punctuator_of_forall_not hnot

theorem Longest.of_isQuote (hquote : isQuote c = true)
    (hliteral : (∃ body, IsBody c body ∧ tail = body ++ [c]) ∨ tail = [])
    (hlone : tail = [] ↔ ¬ Closes c (tail ++ rest)) : Longest c tail rest where
  literal _ := hliteral
  lone _ := hlone
  number hdigit := absurd hdigit (not_isDigit_of_isQuote hquote)
  identifier hstart := absurd hstart (not_isIdentifierStart_of_isQuote hquote)
  punctuator hnot := absurd hquote hnot

theorem Longest.of_isDigit (hdigit : c.isDigit = true) (h : ExtendsNumber tail rest) :
    Longest c tail rest where
  literal hquote := absurd hdigit (not_isDigit_of_isQuote hquote)
  lone hquote := absurd hdigit (not_isDigit_of_isQuote hquote)
  number _ := h
  identifier hstart := absurd hstart (not_isIdentifierStart_of_isDigit hdigit)
  punctuator _ hnot := absurd hdigit hnot

theorem Longest.of_isIdentifierStart (hstart : isIdentifierStart c = true)
    (h : ExtendsOver isIdentifierPart tail rest) : Longest c tail rest where
  literal hquote := absurd hstart (not_isIdentifierStart_of_isQuote hquote)
  lone hquote := absurd hstart (not_isIdentifierStart_of_isQuote hquote)
  number hdigit := absurd hstart (not_isIdentifierStart_of_isDigit hdigit)
  identifier _ := h
  punctuator _ _ hnot := absurd hstart hnot

theorem Longest.of_punctuator (hquote : ¬ isQuote c = true) (hdigit : ¬ c.isDigit = true)
    (hstart : ¬ isIdentifierStart c = true)
    (h : c :: tail ∈ operators ∧
        (∀ operator ∈ operators, operator <+: c :: tail ++ rest →
          operator.length ≤ (c :: tail).length) ∨
      tail = [] ∧ ∀ operator ∈ operators, ¬ operator <+: c :: rest) : Longest c tail rest where
  literal hc := absurd hc hquote
  lone hc := absurd hc hquote
  number hc := absurd hc hdigit
  identifier hc := absurd hc hstart
  punctuator _ _ _ := h

theorem exists_longest_quote (hquote : isQuote c = true) (t : Text) :
    ∃ tail, (scan c t).1 = c :: tail ∧ Longest c tail (scan c t).2 := by
  rw [scan_quote hquote]
  cases hclose : closeLiteral? c t with
  | none =>
    have hnot := (closeLiteral?_eq_none_iff hquote).1 hclose
    exact ⟨[], rfl, .of_isQuote hquote (Or.inr rfl) ⟨fun _ => hnot, fun _ => rfl⟩⟩
  | some parts =>
    obtain ⟨body, hbody, hclosed⟩ := exists_isBody_of_closeLiteral? hclose
    have hcloses : Closes c (parts.1 ++ parts.2) :=
      ⟨body, parts.2, hbody, by rw [hclosed, List.append_assoc]; rfl⟩
    have hne : parts.1 ≠ [] := by
      rw [hclosed]
      exact List.append_ne_nil_of_right_ne_nil body (List.cons_ne_nil c [])
    exact ⟨parts.1, rfl, .of_isQuote hquote (Or.inl ⟨body, hbody, hclosed⟩)
      ⟨fun h => absurd h hne, fun h => absurd hcloses h⟩⟩

theorem exists_longest_punctuator (hquote : ¬ isQuote c = true) (hdigit : ¬ c.isDigit = true)
    (hstart : ¬ isIdentifierStart c = true) (t : Text) :
    ∃ tail, (scan c t).1 = c :: tail ∧ Longest c tail (scan c t).2 := by
  rw [scan_punctuator hquote hdigit hstart]
  cases hfind : operators.find? (·.isPrefixOf (c :: t)) with
  | none =>
    have hnot : ∀ operator ∈ operators, ¬ operator <+: c :: t := fun operator hmem hfront =>
      List.find?_eq_none.1 hfind operator hmem (List.isPrefixOf_iff_prefix.2 hfront)
    rw [punctuator_of_forall_not hnot]
    exact ⟨[], rfl, .of_punctuator hquote hdigit hstart (Or.inr ⟨rfl, hnot⟩)⟩
  | some operator =>
    have hmem := List.mem_of_find?_eq_some hfind
    have hlongest := length_le_of_find? hfind
    obtain ⟨rest, hrest⟩ : operator <+: c :: t :=
      List.isPrefixOf_iff_prefix.1 (by simpa using List.find?_some hfind)
    have hne := punctuator_ne_nil c t
    rw [punctuator_of_mem hmem hrest hlongest] at hne ⊢
    obtain ⟨d, tail, rfl⟩ := List.exists_cons_of_ne_nil hne
    obtain rfl : d = c := (List.cons.inj hrest).1
    rw [← hrest] at hlongest
    exact ⟨tail, rfl, .of_punctuator hquote hdigit hstart (Or.inl ⟨hmem, hlongest⟩)⟩

/-- The lexeme that is found is the longest one. -/
theorem exists_longest (c : Char) (t : Text) :
    ∃ tail, (scan c t).1 = c :: tail ∧ Longest c tail (scan c t).2 := by
  by_cases hquote : isQuote c = true
  · exact exists_longest_quote hquote t
  by_cases hdigit : c.isDigit = true
  · rw [scan_digit hdigit]
    exact ⟨_, rfl, .of_isDigit hdigit (extendsNumber_numberTail t)⟩
  by_cases hstart : isIdentifierStart c = true
  · rw [scan_identifier hstart]
    exact ⟨_, rfl, .of_isIdentifierStart hstart (extendsOver_takeWhile _ t)⟩
  exact exists_longest_punctuator hquote hdigit hstart t

/-! ## What may be put behind a lexeme -/

/-- A text shows no more than another one: a word without white space that stands in front of the
first text stands in front of the second one. -/
def ShowsNoMore (rest' rest : Text) : Prop :=
  ∀ w : Text, (∀ c ∈ w, isSpace c = false) → w <+: rest' → w <+: rest

theorem ShowsNoMore.append (h : ShowsNoMore rest' rest) (part : Text) :
    ShowsNoMore (part ++ rest') (part ++ rest) := by
  intro w hw hfront
  rcases List.prefix_or_prefix_of_prefix hfront (List.prefix_append part rest')
    with hshort | ⟨v, rfl⟩
  · exact hshort.trans (List.prefix_append part rest)
  · rw [List.prefix_append_right_inj] at hfront ⊢
    exact h v (fun c hc => hw c (List.mem_append_right part hc)) hfront

theorem showsNoMore_nil (rest : Text) : ShowsNoMore [] rest := by
  intro w _ hfront
  rw [List.prefix_nil.1 hfront]
  exact List.nil_prefix

theorem showsNoMore_space (hc : isSpace c = true) (t rest : Text) : ShowsNoMore (c :: t) rest := by
  intro w hw hfront
  cases w with
  | nil => exact List.nil_prefix
  | cons d w =>
    have hd := hw d List.mem_cons_self
    rw [(List.cons_prefix_cons.1 hfront).1, hc] at hd
    cases hd

theorem ExtendsOver.congr (h : ExtendsOver p part rest) (hp : ∀ c, p c = true → isSpace c = false)
    (hrest : ShowsNoMore rest' rest) : ExtendsOver p part rest' where
  all := h.all
  stop c hc := by
    rw [Bool.eq_false_iff]
    intro hpc
    obtain ⟨behind', rfl⟩ := List.head?_eq_some_iff.1 (Option.mem_def.1 hc)
    have hword : ∀ d ∈ [c], isSpace d = false := by simpa using hp c hpc
    obtain ⟨behind, rfl⟩ := hrest [c] hword ⟨behind', rfl⟩
    have hstop := h.stop c rfl
    rw [hpc] at hstop
    cases hstop

theorem isSpace_of_isNumberPart (c : Char) (h : isNumberPart c = true) : isSpace c = false :=
  isSpace_of_isIdentifierPart (isIdentifierPart_of_isNumberPart h)

theorem ExtendsNumber.congr (h : ExtendsNumber tail rest) (hrest : ShowsNoMore rest' rest) :
    ExtendsNumber tail rest' := by
  obtain ⟨whole, fraction, rfl, hwhole, hfraction⟩ := h
  refine ⟨whole, fraction, rfl, hwhole.congr isSpace_of_isNumberPart (hrest.append fraction), ?_⟩
  rcases hfraction with ⟨rfl, hnot⟩ | ⟨d, more, hd, rfl, hmore⟩
  · refine Or.inl ⟨rfl, ?_⟩
    rintro ⟨d, behind', hd, rfl⟩
    have hword : ∀ c ∈ ['.', d], isSpace c = false := by
      have hrange := toNat_of_isDigit hd
      rw [List.forall_mem_cons, List.forall_mem_singleton]
      exact ⟨rfl, decide_eq_false (by omega)⟩
    obtain ⟨behind, rfl⟩ := hrest ['.', d] hword ⟨behind', rfl⟩
    exact hnot ⟨d, behind, hd, rfl⟩
  · exact Or.inr ⟨d, more, hd, rfl, hmore.congr isSpace_of_isNumberPart hrest⟩

/-- A lexeme stays the longest one in front of another text that shows no more, unless it is a
quote whose literal is closed there. -/
theorem Longest.congr (h : Longest c tail rest) (hrest : ShowsNoMore rest' rest)
    (hopen : isQuote c = true → tail = [] → ¬ Closes c rest → ¬ Closes c rest') :
    Longest c tail rest' where
  literal := h.literal
  lone hquote := by
    constructor
    · rintro rfl
      exact hopen hquote rfl ((h.lone hquote).1 rfl)
    · intro hnot
      refine (h.literal hquote).resolve_left ?_
      rintro ⟨body, hbody, rfl⟩
      exact hnot ⟨body, rest', hbody, by rw [List.append_assoc, List.singleton_append]⟩
  number hdigit := (h.number hdigit).congr hrest
  identifier hstart := (h.identifier hstart).congr (fun _ => isSpace_of_isIdentifierPart) hrest
  punctuator hquote hdigit hstart := by
    have hshown : ∀ operator ∈ operators, operator <+: c :: tail ++ rest' →
        operator <+: c :: tail ++ rest := fun operator hmem =>
      hrest.append (c :: tail) operator (isSpace_of_mem_operator hmem)
    rcases h.punctuator hquote hdigit hstart with ⟨hmem, hlongest⟩ | ⟨rfl, hnot⟩
    · exact Or.inl ⟨hmem, fun operator ho hin => hlongest operator ho (hshown operator ho hin)⟩
    · exact Or.inr ⟨rfl, fun operator ho hin => hnot operator ho (hshown operator ho hin)⟩

/-! ## All lexemes of a text -/

theorem exists_longest_of_cut? {x : Cut} (h : cut? t = some x) :
    ∃ c tail, x.raw = c :: tail ∧ Longest c tail x.rest ∧ ¬ StartsGap (c :: tail ++ x.rest) := by
  obtain ⟨c, r, -, hscan⟩ := exists_gap_of_cut? h
  obtain ⟨tail, hraw, hlongest⟩ := exists_longest c r
  have hstart := (isGap_of_cut? h).2
  simp only [hscan] at hraw hlongest
  rw [hraw] at hstart
  exact ⟨c, tail, hraw, hlongest, hstart⟩

/-- Every lexeme of the end of a text is the longest one where it stands, and does not start in a
gap. -/
theorem exists_longest_of_mem {whole before : Text} (happend : before ++ t = whole) {x : Lexeme}
    (hx : x ∈ lexemesFrom (Text.units before) t) :
    ∃ c tail rest, x.raw = c :: tail ∧ whole.StandsAt x.offset x.raw rest ∧
      Longest c tail rest ∧ ¬ StartsGap (c :: tail ++ rest) := by
  induction t using cut_induction generalizing before with
  | nil t h =>
    rw [lexemesFrom_of_cut?_none h] at hx
    cases hx
  | cons t y h ih =>
    have hcut := append_of_cut? h
    rw [lexemesFrom_of_cut?_some h] at hx
    rcases List.mem_cons.1 hx with rfl | hx
    · obtain ⟨c, tail, hraw, hlongest, hstart⟩ := exists_longest_of_cut? h
      have hstands : whole.StandsAt (Text.units before) y.gap (y.raw ++ y.rest) :=
        ⟨before, by rw [← happend, ← hcut, List.append_assoc], rfl⟩
      exact ⟨c, tail, y.rest, hraw, hstands.next, hlongest, hstart⟩
    · have hrest : before ++ y.gap ++ y.raw ++ y.rest = whole := by
        rw [← happend, ← hcut]
        simp
      refine ih hrest ?_
      rwa [Text.units_append, Text.units_append]

/-- **Every lexeme is the longest one at its place.**  A literal reaches to its closing quote and
its quote is alone only without one, numbers and identifiers extend over all of their characters,
and everything else is the longest operator, or one character; no other piece of the text from
there on is a lexeme by this description. -/
theorem longest_of_mem_lexemes {t : Text} {x : Lexeme} (hx : x ∈ lexemes t) :
    ∃ c tail rest, x.raw = c :: tail ∧ t.StandsAt x.offset x.raw rest ∧ Longest c tail rest ∧
      ∀ tail' rest', tail' ++ rest' = tail ++ rest → Longest c tail' rest' → tail' = tail := by
  obtain ⟨c, tail, rest, hraw, hstands, hlongest, -⟩ := exists_longest_of_mem (List.nil_append t) hx
  refine ⟨c, tail, rest, hraw, hstands, hlongest, fun tail' rest' happend hother => ?_⟩
  have hscan := hother.scan_eq
  rw [happend, hlongest.scan_eq] at hscan
  exact (List.cons.inj (Prod.mk.inj hscan).1).2.symm

/-- A string that goes on behind a backslash, is not closed on its next line either, and is
followed by a number with two points and by operators. -/
def unclosed : Text := "\x22a\\\nb\n1.5.2\x22>>>=="

theorem longest_unclosed :
    (⟨['\x22'], 0⟩ : Lexeme) ∈ lexemes unclosed ∧
      ∃ c tail rest, ['\x22'] = c :: tail ∧ unclosed.StandsAt 0 ['\x22'] rest ∧
        Longest c tail rest ∧
        ∀ tail' rest', tail' ++ rest' = tail ++ rest → Longest c tail' rest' → tail' = tail :=
  have h : (⟨['\x22'], 0⟩ : Lexeme) ∈ lexemes unclosed := by decide +kernel
  ⟨h, longest_of_mem_lexemes h⟩

end Lexicon

end DiagnosticHints
