import DiagnosticHints.Report.Json

/-!
# Reading JSON documents

A reader for documents of JSON whose numbers are whole. It takes any spaces between the parts and
any escapes but surrogate pairs, and refuses everything that is not one value from end to end. A
printed document is read back as its value, so that it is a document of JSON, and no other value
has the same one.
-/

namespace DiagnosticHints

namespace Json

/-! ## The reader -/

/-- The characters that may stand between the parts of a document. -/
def isSpace (c : Char) : Bool := c == ' ' || c == '\t' || c == '\n' || c == '\r'

/-- The text without the spaces in front. -/
def skip (t : Text) : Text := t.dropWhile isSpace

/-- The value of a hexadecimal digit. -/
def hexValue? (c : Char) : Option Nat :=
  if '0' ≤ c ∧ c ≤ '9' then some (c.toNat - 0x30)
  else if 'a' ≤ c ∧ c ≤ 'f' then some (c.toNat - 0x57)
  else if 'A' ≤ c ∧ c ≤ 'F' then some (c.toNat - 0x37)
  else none

/-- The character with a number of four hexadecimal digits. Halves of surrogate pairs are none. -/
def ofHex? (a b c d : Char) : Option Char := do
  let n := (((← hexValue? a) * 16 + (← hexValue? b)) * 16 + (← hexValue? c)) * 16 + (← hexValue? d)
  if 0xD800 ≤ n ∧ n < 0xE000 then none else some (Char.ofNat n)

/-- The character that is meant by a letter behind a backslash. -/
def unescape? : Char → Option Char
  | '\x22' => some '\x22'
  | '\\' => some '\\'
  | '/' => some '/'
  | 'b' => some '\x08'
  | 'f' => some '\x0c'
  | 'n' => some '\n'
  | 'r' => some '\r'
  | 't' => some '\t'
  | _ => none

/-- The text behind an opening quotation mark, up to the closing one, and what follows it. -/
def readText? : Text → Option (Text × Text)
  | [] => none
  | '\x22' :: rest => some ([], rest)
  | '\\' :: 'u' :: a :: b :: c :: d :: t => do
    let x ← ofHex? a b c d
    let (s, rest) ← readText? t
    return (x :: s, rest)
  | '\\' :: e :: t => do
    let x ← unescape? e
    let (s, rest) ← readText? t
    return (x :: s, rest)
  | c :: t =>
    if c = '\\' ∨ c.toNat < 0x20 then none
    else do
      let (s, rest) ← readText? t
      return (c :: s, rest)

/-- A whole number without leading zeros, and what follows it. -/
def readNat? (t : Text) : Option (Nat × Text) :=
  let digits := t.takeWhile Char.isDigit
  if digits = [] ∨ (digits.head? = some '0' ∧ digits ≠ ['0']) then none
  else some (Nat.ofDigitChars 10 digits 0, t.dropWhile Char.isDigit)

/-- A value that is a number or null, and what follows it. -/
def readAtom? : Text → Option (Json × Text)
  | 'n' :: 'u' :: 'l' :: 'l' :: rest => some (null, rest)
  | '-' :: t => (readNat? t).map fun (n, rest) => (number (-n), rest)
  | t => (readNat? t).map fun (n, rest) => (number n, rest)

mutual

/-- A value that starts a text, and what follows it, read in at most `steps` steps. -/
def readValue? : Nat → Text → Option (Json × Text)
  | 0, _ => none
  | steps + 1, t =>
    match t with
    | '\x22' :: t => (readText? t).map fun (s, rest) => (text s, rest)
    | '[' :: t =>
      match skip t with
      | ']' :: rest => some (array [], rest)
      | t => do
        let (item, t) ← readValue? steps t
        let (items, rest) ← readItems? steps t
        return (array (item :: items), rest)
    | '\x7b' :: t =>
      match skip t with
      | '\x7d' :: rest => some (object [], rest)
      | t => do
        let (member, t) ← readMember? steps t
        let (members, rest) ← readMembers? steps t
        return (object (member :: members), rest)
    | t => readAtom? t

/-- The items behind the first one up to the end of an array, and what follows it. -/
def readItems? : Nat → Text → Option (List Json × Text)
  | 0, _ => none
  | steps + 1, t =>
    match skip t with
    | ']' :: rest => some ([], rest)
    | ',' :: t => do
      let (item, t) ← readValue? steps (skip t)
      let (items, rest) ← readItems? steps t
      return (item :: items, rest)
    | _ => none

/-- A member that starts a text, and what follows it. -/
def readMember? : Nat → Text → Option ((Text × Json) × Text)
  | 0, _ => none
  | steps + 1, t =>
    match t with
    | '\x22' :: t => do
      let (key, t) ← readText? t
      match skip t with
      | ':' :: t =>
        let (value, rest) ← readValue? steps (skip t)
        return ((key, value), rest)
      | _ => none
    | _ => none

/-- The members behind the first one up to the end of an object, and what follows it. -/
def readMembers? : Nat → Text → Option (List (Text × Json) × Text)
  | 0, _ => none
  | steps + 1, t =>
    match skip t with
    | '\x7d' :: rest => some ([], rest)
    | ',' :: t => do
      let (member, t) ← readMember? steps (skip t)
      let (members, rest) ← readMembers? steps t
      return (member :: members, rest)
    | _ => none

end

/-- The value of a document: one value with nothing but spaces around it. Each step takes a
character, so the length of the text bounds the steps. -/
def read? (t : Text) : Option Json :=
  match readValue? (t.length + 1) (skip t) with
  | some (value, rest) => if skip rest = [] then some value else none
  | none => none

/-! ## Texts and numbers -/

theorem hexValue?_hexDigit {n : Nat} (h : n < 16) : hexValue? (hexDigit n) = some n := by
  revert n
  decide

theorem ofHex?_of_lt {c : Char} (h : c.toNat < 0x20) :
    ofHex? '0' '0' (hexDigit (c.toNat / 16)) (hexDigit c.toNat) = some c := by
  have hhigh := hexValue?_hexDigit (n := c.toNat / 16) (by omega)
  have hlow : hexValue? (hexDigit c.toNat) = some (c.toNat % 16) := by
    rw [← hexValue?_hexDigit (n := c.toNat % 16) (by omega), hexDigit, hexDigit, Nat.mod_mod]
  have hzero : hexValue? '0' = some 0 := rfl
  have hsum : ((0 * 16 + 0) * 16 + c.toNat / 16) * 16 + c.toNat % 16 = c.toNat := by omega
  simp only [ofHex?, hzero, hhigh, hlow, Option.bind_eq_bind, Option.bind_some, hsum]
  rw [if_neg (by omega), Char.ofNat_toNat]

theorem readText?_plain {c : Char} (hquote : c ≠ '\x22') (hslash : c ≠ '\\')
    (hspace : ¬ c.toNat < 0x20) (t : Text) :
    readText? (c :: t) = (readText? t).map fun (s, rest) => (c :: s, rest) := by
  rw [readText?]
  · rw [if_neg (by simp [hslash, hspace])]
    cases readText? t <;> rfl
  all_goals simp_all

theorem readText?_letter {e x : Char} (he : e ≠ 'u') (h : unescape? e = some x) (t : Text) :
    readText? ('\\' :: e :: t) = (readText? t).map fun (s, rest) => (x :: s, rest) := by
  rw [readText?]
  · rw [h]
    cases readText? t <;> rfl
  · simp_all

/-- A character is written as a letter behind a backslash, by its number, or as it is. -/
theorem escape_cases (c : Char) :
    (∃ e, escape c = ['\\', e] ∧ e ≠ 'u' ∧ unescape? e = some c) ∨
    (c.toNat < 0x20 ∧
      escape c = ['\\', 'u', '0', '0', hexDigit (c.toNat / 16), hexDigit c.toNat]) ∨
    (c ≠ '\x22' ∧ c ≠ '\\' ∧ ¬ c.toNat < 0x20 ∧ escape c = [c]) := by
  unfold escape
  by_cases hspecial : c ∈ ['\x22', '\\', '\x08', '\t', '\n', '\x0c', '\r']
  · left
    simp only [List.mem_cons, List.not_mem_nil, or_false] at hspecial
    rcases hspecial with rfl | rfl | rfl | rfl | rfl | rfl | rfl
    all_goals exact ⟨_, rfl, by decide, rfl⟩
  · right
    simp only [List.mem_cons, List.not_mem_nil, or_false, not_or] at hspecial
    simp only [hspecial, if_false]
    by_cases hcontrol : c.toNat < 0x20
    · exact Or.inl ⟨hcontrol, if_pos hcontrol⟩
    · exact Or.inr ⟨hspecial.1, hspecial.2.1, hcontrol, if_neg hcontrol⟩

/-- A character is read back from the way it is written. -/
theorem readText?_escape (c : Char) (t : Text) :
    readText? (escape c ++ t) = (readText? t).map fun (s, rest) => (c :: s, rest) := by
  rcases escape_cases c with ⟨e, h, he, hc⟩ | ⟨hc, h⟩ | ⟨hquote, hslash, hspace, h⟩
  · rw [h]
    exact readText?_letter he hc t
  · rw [h]
    simp only [List.cons_append, List.nil_append, readText?, ofHex?_of_lt hc]
    cases readText? t <;> rfl
  · rw [h]
    exact readText?_plain hquote hslash hspace t

theorem readText?_quoted (s rest : Text) :
    readText? (s.flatMap escape ++ '\x22' :: rest) = some (s, rest) := by
  induction s with
  | nil => simp [readText?]
  | cons c s ih => rw [List.flatMap_cons, List.append_assoc, readText?_escape, ih]; rfl

theorem head?_ofNat {n : Nat} (h : 0 < n) : (Text.ofNat n).head? ≠ some '0' := by
  induction n using Nat.strongRecOn with
  | ind n ih =>
    rw [Text.ofNat]
    rcases Nat.lt_or_ge n 10 with hlt | hge
    · have hdigit : ∀ k < 10, 0 < k → Nat.digitChar k ≠ '0' := by decide
      rw [Nat.toDigits_of_lt_base hlt, List.head?_cons, ne_eq, Option.some.injEq]
      exact hdigit n hlt h
    · have hhead := ih (n / 10) (by omega) (by omega)
      have hne : Nat.toDigits 10 (n / 10) ≠ [] := Nat.toDigits_ne_nil
      obtain ⟨c, t, hcons⟩ := List.exists_cons_of_ne_nil hne
      rw [Text.ofNat, hcons] at hhead
      rw [Nat.toDigits_of_base_le (by omega) hge, hcons]
      exact hhead

/-- What follows a number does not go on with a digit. -/
def StopsNumber (rest : Text) : Prop := ∀ c ∈ rest.head?, c.isDigit = false

theorem readNat?_ofNat (n : Nat) {rest : Text} (h : StopsNumber rest) :
    readNat? (Text.ofNat n ++ rest) = some (n, rest) := by
  have hall : ∀ c ∈ Text.ofNat n, c.isDigit = true := fun c hc => Text.isDigit_of_mem_ofNat hc
  have htake : rest.takeWhile Char.isDigit = [] := by
    cases rest with
    | nil => rfl
    | cons c t => rw [List.takeWhile_cons, h c rfl]; rfl
  have hdrop : rest.dropWhile Char.isDigit = rest := by
    cases rest with
    | nil => rfl
    | cons c t => rw [List.dropWhile_cons, h c rfl]; rfl
  have hne : Text.ofNat n ≠ [] := Nat.toDigits_ne_nil
  have hzero : (Text.ofNat n).head? = some '0' → Text.ofNat n = ['0'] := by
    intro hhead
    rcases Nat.eq_zero_or_pos n with rfl | hpos
    · rfl
    · exact absurd hhead (head?_ofNat hpos)
  have hvalue : Nat.ofDigitChars 10 (Text.ofNat n) 0 = n :=
    Nat.ofDigitChars_toDigits (by omega) (by omega)
  simp only [readNat?, List.takeWhile_append_of_pos hall, List.dropWhile_append_of_pos hall,
    htake, hdrop, List.append_nil, hvalue]
  rw [if_neg]
  rintro (hnil | ⟨hhead, hmore⟩)
  · exact hne hnil
  · exact hmore (hzero hhead)

theorem readAtom?_digit {c : Char} (hc : c.isDigit = true) (t : Text) :
    readAtom? (c :: t) = (readNat? (c :: t)).map fun (n, rest) => (number n, rest) := by
  rw [readAtom?]
  all_goals
    intro rest heq
    obtain ⟨rfl, _⟩ := List.cons.inj heq
    cases hc

theorem exists_ofNat_eq_cons (n : Nat) : ∃ c t, Text.ofNat n = c :: t ∧ c.isDigit = true := by
  have hne : Text.ofNat n ≠ [] := Nat.toDigits_ne_nil
  obtain ⟨c, t, h⟩ := List.exists_cons_of_ne_nil hne
  have hc : c ∈ Text.ofNat n := h ▸ List.mem_cons_self
  exact ⟨c, t, h, Text.isDigit_of_mem_ofNat hc⟩

theorem exists_ofInt_eq_cons (n : Int) :
    ∃ c t, Text.ofInt n = c :: t ∧ (c.isDigit = true ∨ c = '-') := by
  rw [Text.ofInt]
  by_cases hn : n < 0
  · rw [if_pos hn]
    exact ⟨'-', _, rfl, Or.inr rfl⟩
  · obtain ⟨c, t, hcons, hc⟩ := exists_ofNat_eq_cons n.natAbs
    rw [if_neg hn]
    exact ⟨c, t, hcons, Or.inl hc⟩

theorem readAtom?_ofInt (n : Int) {rest : Text} (h : StopsNumber rest) :
    readAtom? (Text.ofInt n ++ rest) = some (number n, rest) := by
  rw [Text.ofInt]
  by_cases hn : n < 0
  · have habs : -(n.natAbs : Int) = n := by omega
    rw [if_pos hn, List.cons_append]
    simp only [readAtom?, readNat?_ofNat _ h, Option.map_some, habs]
  · have habs : (n.natAbs : Int) = n := by omega
    obtain ⟨c, t, hcons, hc⟩ := exists_ofNat_eq_cons n.natAbs
    have hread := readNat?_ofNat n.natAbs h
    rw [hcons, List.cons_append] at hread
    rw [if_neg hn, hcons, List.cons_append, readAtom?_digit hc, hread, Option.map_some]
    dsimp only
    rw [habs]

/-! ## Values -/

mutual

/-- How many steps the reading of a value takes. -/
def size : Json → Nat
  | null => 1
  | number _ => 1
  | text _ => 1
  | array [] => 1
  | array (item :: rest) => 1 + size item + sizeItems rest
  | object [] => 1
  | object ((_, value) :: rest) => 2 + size value + sizeMembers rest

/-- How many steps the reading of further items takes. -/
def sizeItems : List Json → Nat
  | [] => 1
  | item :: rest => 1 + size item + sizeItems rest

/-- How many steps the reading of further members takes. -/
def sizeMembers : List (Text × Json) → Nat
  | [] => 1
  | (_, value) :: rest => 2 + size value + sizeMembers rest

end

theorem skip_newline (level : Nat) (t : Text) : skip (newline level ++ t) = skip t := by
  have hspace : ∀ c ∈ newline level, isSpace c = true := by
    intro c hc
    rcases List.mem_cons.1 hc with rfl | hc
    · rfl
    · rw [List.eq_of_mem_replicate hc]
      rfl
  rw [skip, List.dropWhile_append_of_pos hspace, skip]

theorem skip_cons {c : Char} (h : isSpace c = false) (t : Text) : skip (c :: t) = c :: t := by
  rw [skip, List.dropWhile_cons, h]
  rfl

/-- The characters that a value starts with. -/
def isStart (c : Char) : Bool := c.isDigit || ['n', '-', '\x22', '[', '\x7b'].contains c

theorem isSpace_of_isStart {c : Char} (h : isStart c = true) : isSpace c = false := by
  rw [Bool.eq_false_iff]
  intro hspace
  simp only [isSpace, Bool.or_eq_true, beq_iff_eq] at hspace
  rcases hspace with ((rfl | rfl) | rfl) | rfl
  all_goals cases h

theorem exists_print_eq_cons (level : Nat) (v : Json) :
    ∃ c t, print level v = c :: t ∧ isStart c = true := by
  cases v with
  | null => exact ⟨'n', _, rfl, rfl⟩
  | number n =>
    obtain ⟨c, t, hcons, hc⟩ := exists_ofInt_eq_cons n
    refine ⟨c, t, hcons, ?_⟩
    rcases hc with hc | rfl
    · rw [isStart, hc, Bool.true_or]
    · rfl
  | text s => exact ⟨'\x22', _, rfl, rfl⟩
  | array items =>
    cases items with
    | nil => exact ⟨'[', _, rfl, rfl⟩
    | cons item rest => exact ⟨'[', _, rfl, rfl⟩
  | object members =>
    cases members with
    | nil => exact ⟨'\x7b', _, rfl, rfl⟩
    | cons member rest => exact ⟨'\x7b', _, rfl, rfl⟩

theorem skip_print (level : Nat) (v : Json) (rest : Text) :
    skip (print level v ++ rest) = print level v ++ rest := by
  obtain ⟨c, t, hcons, hc⟩ := exists_print_eq_cons level v
  rw [hcons]
  exact skip_cons (isSpace_of_isStart hc) _

/-! ## One step of reading -/

theorem readValue?_atom {c : Char} (hc : c.isDigit = true ∨ c = '-') (steps : Nat) (t : Text) :
    readValue? (steps + 1) (c :: t) = readAtom? (c :: t) := by
  rw [readValue?]
  all_goals
    intro rest heq
    obtain ⟨rfl, _⟩ := List.cons.inj heq
    rcases hc with hc | hc <;> cases hc

theorem readValue?_array {t : Text} (h : ∀ rest, skip t ≠ ']' :: rest) (steps : Nat) :
    readValue? (steps + 1) ('[' :: t) = do
      let (item, t) ← readValue? steps (skip t)
      let (items, rest) ← readItems? steps t
      return (array (item :: items), rest) := by
  rw [readValue?]
  split
  · next rest heq => exact absurd heq (h rest)
  · rfl

theorem readValue?_object {t : Text} (h : ∀ rest, skip t ≠ '\x7d' :: rest) (steps : Nat) :
    readValue? (steps + 1) ('\x7b' :: t) = do
      let (member, t) ← readMember? steps (skip t)
      let (members, rest) ← readMembers? steps t
      return (object (member :: members), rest) := by
  rw [readValue?]
  split
  · next rest heq => exact absurd heq (h rest)
  · rfl

theorem readItems?_close (level steps : Nat) (rest : Text) :
    readItems? (steps + 1) (newline level ++ ']' :: rest) = some ([], rest) := by
  have hskip : skip (newline level ++ ']' :: rest) = ']' :: rest := by
    rw [skip_newline, skip_cons rfl]
  simp only [readItems?, hskip]

theorem readItems?_comma (steps : Nat) (t : Text) :
    readItems? (steps + 1) (',' :: t) = do
      let (item, t) ← readValue? steps (skip t)
      let (items, rest) ← readItems? steps t
      return (item :: items, rest) := by
  have hskip : skip (',' :: t) = ',' :: t := skip_cons rfl t
  simp only [readItems?, hskip]

theorem readMember?_quoted (steps : Nat) (key t : Text) :
    readMember? (steps + 1) (quoted key ++ ':' :: ' ' :: t) = do
      let (value, rest) ← readValue? steps (skip t)
      return ((key, value), rest) := by
  have hskip : skip (':' :: ' ' :: t) = ':' :: ' ' :: t := skip_cons rfl _
  have hblank : skip (' ' :: t) = skip t := List.dropWhile_cons_of_pos rfl
  rw [quoted, List.cons_append, List.append_assoc, List.singleton_append]
  simp only [readMember?, readText?_quoted, Option.bind_eq_bind, Option.bind_some, hskip, hblank]

theorem readMembers?_close (level steps : Nat) (rest : Text) :
    readMembers? (steps + 1) (newline level ++ '\x7d' :: rest) = some ([], rest) := by
  have hskip : skip (newline level ++ '\x7d' :: rest) = '\x7d' :: rest := by
    rw [skip_newline, skip_cons rfl]
  simp only [readMembers?, hskip]

theorem readMembers?_comma (steps : Nat) (t : Text) :
    readMembers? (steps + 1) (',' :: t) = do
      let (member, t) ← readMember? steps (skip t)
      let (members, rest) ← readMembers? steps t
      return (member :: members, rest) := by
  have hskip : skip (',' :: t) = ',' :: t := skip_cons rfl t
  simp only [readMembers?, hskip]

/-! ## Printed values are read back -/

theorem stopsNumber_items (level outer : Nat) (items : List Json) (rest : Text) :
    StopsNumber (printItems level items ++ (newline outer ++ ']' :: rest)) := by
  cases items
  all_goals
    rintro c hc
    obtain rfl := Option.some.inj hc
    rfl

theorem stopsNumber_members (level outer : Nat) (members : List (Text × Json)) (rest : Text) :
    StopsNumber (printMembers level members ++ (newline outer ++ '\x7d' :: rest)) := by
  cases members
  all_goals
    rintro c hc
    obtain rfl := Option.some.inj hc
    rfl

theorem size_pos (v : Json) : 0 < size v := by
  unfold size
  split <;> omega

theorem skip_newline_print (level outer : Nat) (v : Json) (rest : Text) :
    skip (newline outer ++ (print level v ++ rest)) = print level v ++ rest := by
  rw [skip_newline, skip_print]

theorem print_append_ne (level : Nat) (v : Json) (t rest : Text) :
    print level v ++ t ≠ ']' :: rest := by
  obtain ⟨c, s, hcons, hc⟩ := exists_print_eq_cons level v
  rw [hcons, List.cons_append]
  intro heq
  obtain ⟨rfl, _⟩ := List.cons.inj heq
  cases hc

theorem skip_newline_quoted (level : Nat) (key t : Text) :
    skip (newline level ++ (quoted key ++ t)) = quoted key ++ t := by
  rw [skip_newline, quoted, List.cons_append]
  exact skip_cons rfl _

mutual

/-- A printed value is read back, whatever follows it. -/
theorem readValue?_print : ∀ (v : Json) (level steps : Nat) (rest : Text), size v ≤ steps + 1 →
    StopsNumber rest → readValue? (steps + 1) (print level v ++ rest) = some (v, rest)
  | .null, level, steps, rest, _, _ => by
    simp [print, readValue?, readAtom?]
  | .number n, level, steps, rest, _, h => by
    obtain ⟨c, t, hcons, hc⟩ := exists_ofInt_eq_cons n
    have hread := readAtom?_ofInt n h
    rw [hcons, List.cons_append] at hread
    rw [print, hcons, List.cons_append, readValue?_atom hc, hread]
  | .text s, level, steps, rest, _, _ => by
    simp [print, quoted, readValue?, readText?_quoted]
  | .array [], level, steps, rest, _, _ => by
    have hskip : skip (']' :: rest) = ']' :: rest := skip_cons rfl rest
    simp [print, readValue?, hskip]
  | .array (item :: items), level, steps, rest, hsize, h => by
    rw [size] at hsize
    obtain ⟨k, rfl⟩ : ∃ k, steps = k + 1 := ⟨steps - 1, by have := size_pos item; omega⟩
    have hitem := readValue?_print item (level + 1) k
      (printItems (level + 1) items ++ (newline level ++ ']' :: rest)) (by omega)
      (stopsNumber_items _ _ _ _)
    have hitems := readItems?_print items (level + 1) level (k + 1) rest (by omega)
    rw [print]
    simp only [List.cons_append, List.append_assoc, List.nil_append]
    rw [readValue?_array, skip_newline_print, hitem]
    · simp [hitems]
    · intro rest
      rw [skip_newline_print]
      exact print_append_ne _ _ _ _
  | .object [], level, steps, rest, _, _ => by
    have hskip : skip ('\x7d' :: rest) = '\x7d' :: rest := skip_cons rfl rest
    simp [print, readValue?, hskip]
  | .object ((key, value) :: members), level, steps, rest, hsize, h => by
    rw [size] at hsize
    obtain ⟨k, rfl⟩ : ∃ k, steps = k + 2 := ⟨steps - 2, by have := size_pos value; omega⟩
    have hvalue := readValue?_print value (level + 1) k
      (printMembers (level + 1) members ++ (newline level ++ '\x7d' :: rest)) (by omega)
      (stopsNumber_members _ _ _ _)
    have hmembers := readMembers?_print members (level + 1) level (k + 2) rest (by omega)
    rw [print]
    simp only [List.cons_append, List.append_assoc, List.nil_append]
    rw [readValue?_object, skip_newline_quoted, readMember?_quoted, skip_print, hvalue]
    · simp [hmembers]
    · intro rest
      rw [skip_newline_quoted, quoted]
      simp

/-- The items behind the first one are read back. -/
theorem readItems?_print : ∀ (items : List Json) (level outer steps : Nat) (rest : Text),
    sizeItems items ≤ steps →
      readItems? steps (printItems level items ++ (newline outer ++ ']' :: rest)) =
        some (items, rest)
  | [], level, outer, steps, rest, hsize => by
    rw [sizeItems] at hsize
    obtain ⟨k, rfl⟩ : ∃ k, steps = k + 1 := ⟨steps - 1, by omega⟩
    exact readItems?_close outer k rest
  | item :: items, level, outer, steps, rest, hsize => by
    rw [sizeItems] at hsize
    obtain ⟨k, rfl⟩ : ∃ k, steps = k + 2 := ⟨steps - 2, by have := size_pos item; omega⟩
    have hitem := readValue?_print item level k
      (printItems level items ++ (newline outer ++ ']' :: rest)) (by omega)
      (stopsNumber_items _ _ _ _)
    have hitems := readItems?_print items level outer (k + 1) rest (by omega)
    rw [printItems]
    simp only [List.cons_append, List.append_assoc]
    rw [readItems?_comma, skip_newline_print, hitem]
    simp [hitems]

/-- The members behind the first one are read back. -/
theorem readMembers?_print : ∀ (members : List (Text × Json)) (level outer steps : Nat)
    (rest : Text), sizeMembers members ≤ steps →
      readMembers? steps (printMembers level members ++ (newline outer ++ '\x7d' :: rest)) =
        some (members, rest)
  | [], level, outer, steps, rest, hsize => by
    rw [sizeMembers] at hsize
    obtain ⟨k, rfl⟩ : ∃ k, steps = k + 1 := ⟨steps - 1, by omega⟩
    exact readMembers?_close outer k rest
  | (key, value) :: members, level, outer, steps, rest, hsize => by
    rw [sizeMembers] at hsize
    obtain ⟨k, rfl⟩ : ∃ k, steps = k + 3 := ⟨steps - 3, by have := size_pos value; omega⟩
    have hvalue := readValue?_print value level k
      (printMembers level members ++ (newline outer ++ '\x7d' :: rest)) (by omega)
      (stopsNumber_members _ _ _ _)
    have hmembers := readMembers?_print members level outer (k + 2) rest (by omega)
    rw [printMembers]
    simp only [List.cons_append, List.append_assoc]
    rw [readMembers?_comma, skip_newline_quoted, readMember?_quoted, skip_print, hvalue]
    simp [hmembers]

end

mutual

/-- Every step of reading takes a character of its own. -/
theorem size_le_length : ∀ (level : Nat) (v : Json), size v ≤ (print level v).length
  | level, .null => by simp [size, print]
  | level, .number n => by
    obtain ⟨c, t, hcons, _⟩ := exists_ofInt_eq_cons n
    simp [size, print, hcons]
  | level, .text s => by simp [size, print, quoted]
  | level, .array [] => by simp [size, print]
  | level, .array (item :: items) => by
    have hitem := size_le_length (level + 1) item
    have hitems := sizeItems_le_length (level + 1) items
    simp only [size, print, newline, List.length_cons, List.length_append]
    omega
  | level, .object [] => by simp [size, print]
  | level, .object ((key, value) :: members) => by
    have hvalue := size_le_length (level + 1) value
    have hmembers := sizeMembers_le_length (level + 1) members
    simp only [size, print, newline, List.length_cons, List.length_append]
    omega

theorem sizeItems_le_length : ∀ (level : Nat) (items : List Json),
    sizeItems items ≤ (printItems level items).length + 1
  | level, [] => by simp [sizeItems, printItems]
  | level, item :: items => by
    have hitem := size_le_length level item
    have hitems := sizeItems_le_length level items
    simp only [sizeItems, printItems, List.length_cons, List.length_append]
    omega

theorem sizeMembers_le_length : ∀ (level : Nat) (members : List (Text × Json)),
    sizeMembers members ≤ (printMembers level members).length + 1
  | level, [] => by simp [sizeMembers, printMembers]
  | level, (key, value) :: members => by
    have hvalue := size_le_length level value
    have hmembers := sizeMembers_le_length level members
    simp only [sizeMembers, printMembers, newline, List.length_cons, List.length_append]
    omega

end

/-- A document is read back, whatever spaces stand behind it. -/
theorem read?_document_append (v : Json) {blank : Text} (hblank : skip blank = [])
    (hstops : StopsNumber blank) : read? (document v ++ blank) = some v := by
  have hread := readValue?_print v 0 (print 0 v ++ blank).length blank
    (by have := size_le_length 0 v; rw [List.length_append]; omega) hstops
  rw [read?, document, skip_print 0 v blank, hread]
  exact if_pos hblank

/-- **A document is read back.** -/
theorem read?_document (v : Json) : read? (document v) = some v := by
  have h : read? (document v ++ []) = some v :=
    read?_document_append v rfl (by simp [StopsNumber])
  rwa [List.append_nil] at h

example : read? "[1]\n[]".toList = none := by cbv

end Json

end DiagnosticHints
