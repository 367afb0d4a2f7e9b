import DiagnosticHints.Text.Letter

/-!
# The lexeme at the head of a text

Template and string literals, numbers, identifiers and operators, tried in this order by their
first character. A literal that is never closed leaves its quote as a punctuator, and so does
every other character, so that each nonempty text starts with a lexeme.
-/

namespace DiagnosticHints

namespace Lexicon

/-! ## Characters -/

/-- The quote of a template literal. -/
def backtick : Char := '\x60'

/-- The quotes of literals: templates, and strings in either quote. -/
def isQuote (c : Char) : Bool := c == backtick || c == '\x22' || c == '\x27'

/-- The characters an identifier starts with. -/
def isIdentifierStart (c : Char) : Bool :=
  Text.isLetter c || c == '_' || c == '$' || c == '#'

/-- The characters an identifier goes on with. -/
def isIdentifierPart (c : Char) : Bool :=
  Text.isLetter c || c.isDigit || c == '_' || c == '$'

/-- The characters a number goes on with. -/
def isNumberPart (c : Char) : Bool := Text.isLetter c || c.isDigit || c == '_'

/-! ## Literals, numbers, operators -/

/-- The body of a literal with its closing quote, and the text behind it. A backslash takes the
next character with it, whatever it is; a line feed ends a string unclosed, but not a template. -/
def closeLiteral? (quote : Char) : Text → Option (Text × Text)
  | [] => none
  | '\\' :: [] => none
  | '\\' :: c :: t => (closeLiteral? quote t).map fun (body, rest) => ('\\' :: c :: body, rest)
  | c :: t =>
    if c = quote then some ([c], t)
    else if c = '\n' ∧ quote ≠ backtick then none
    else (closeLiteral? quote t).map fun (body, rest) => (c :: body, rest)

/-- The number behind a first digit, and the text behind it: a point belongs to the number when a
digit follows. -/
def numberTail (t : Text) : Text × Text :=
  let whole := t.takeWhile isNumberPart
  match t.dropWhile isNumberPart with
  | '.' :: d :: rest =>
    if d.isDigit then
      (whole ++ '.' :: d :: rest.takeWhile isNumberPart, rest.dropWhile isNumberPart)
    else (whole, '.' :: d :: rest)
  | rest => (whole, rest)

/-- The operators of more than one character, a longer one before each of its beginnings. -/
def operators : List Text := List.map String.toList
  [">>>=", "...", "===", "!==", "**=", "<<=", ">>=", ">>>", "&&=", "||=", "??=", "=>", "==", "!=",
    "<=", ">=", "&&", "||", "??", "?.", "++", "--", "+=", "-=", "*=", "/=", "%=", "&=", "|=", "^=",
    "**", "<<", ">>"]

/-- The operator or the single character at the head of a text, and the text behind it. -/
def punctuator (c : Char) (t : Text) : Text × Text :=
  match operators.find? (·.isPrefixOf (c :: t)) with
  | some operator => (operator, (c :: t).drop operator.length)
  | none => ([c], t)

/-! ## Lexemes -/

/-- The lexeme at the head of a text, and the text behind it. -/
def scan (c : Char) (t : Text) : Text × Text :=
  if isQuote c then
    match closeLiteral? c t with
    | some (body, rest) => (c :: body, rest)
    | none => ([c], t)
  else if c.isDigit then
    let tail := numberTail t
    (c :: tail.1, tail.2)
  else if isIdentifierStart c then
    (c :: t.takeWhile isIdentifierPart, t.dropWhile isIdentifierPart)
  else punctuator c t

theorem append_of_closeLiteral? {quote : Char} {t body rest : Text}
    (h : closeLiteral? quote t = some (body, rest)) : body ++ rest = t := by
  fun_induction closeLiteral? quote t generalizing body rest with
  | case1 => simp at h
  | case2 => simp at h
  | case3 c t ih =>
    simp only [Option.map_eq_some_iff, Prod.mk.injEq] at h
    obtain ⟨⟨b, r⟩, hs, rfl, rfl⟩ := h
    simp [ih hs]
  | case4 => simp at h; simp [← h.1, ← h.2]
  | case5 => simp at h
  | case6 _ _ _ _ _ _ ih =>
    simp only [Option.map_eq_some_iff, Prod.mk.injEq] at h
    obtain ⟨⟨b, r⟩, hs, rfl, rfl⟩ := h
    simp [ih hs]

theorem numberTail_append (t : Text) : (numberTail t).1 ++ (numberTail t).2 = t := by
  simp only [numberTail]
  split
  · next d rest h =>
    split
    · have ht : t.takeWhile isNumberPart ++ '.' :: d :: rest = t := by
        rw [← h, List.takeWhile_append_dropWhile]
      simpa [List.takeWhile_append_dropWhile] using ht
    · rw [← h, List.takeWhile_append_dropWhile]
  · rw [List.takeWhile_append_dropWhile]

theorem punctuator_append (c : Char) (t : Text) :
    (punctuator c t).1 ++ (punctuator c t).2 = c :: t := by
  unfold punctuator
  split
  · next operator h =>
    have hp : operator.isPrefixOf (c :: t) = true := by simpa using List.find?_some h
    obtain ⟨rest, hrest⟩ := List.isPrefixOf_iff_prefix.1 hp
    simp [← hrest]
  · rfl

theorem punctuator_ne_nil (c : Char) (t : Text) : (punctuator c t).1 ≠ [] := by
  unfold punctuator
  split
  · next operator h =>
    have hmem := List.mem_of_find?_eq_some h
    have hall : ∀ o ∈ operators, o ≠ [] := by decide +kernel
    exact hall operator hmem
  · simp

/-- The lexeme and the text behind it make up the whole text. -/
theorem scan_append (c : Char) (t : Text) : (scan c t).1 ++ (scan c t).2 = c :: t := by
  unfold scan
  split
  · split
    · next h => simp [append_of_closeLiteral? h]
    · rfl
  · split
    · simp [numberTail_append]
    · split
      · simp [List.takeWhile_append_dropWhile]
      · exact punctuator_append c t

theorem scan_ne_nil (c : Char) (t : Text) : (scan c t).1 ≠ [] := by
  unfold scan
  split
  · split <;> simp
  · split
    · simp
    · split
      · simp
      · exact punctuator_ne_nil c t

end Lexicon

end DiagnosticHints
