import DiagnosticHints.Proofs.LexemesAlone

/-!
# Template literals with substitutions

A template literal may hold substitutions, these may hold template literals again, and so on. The
lexeme of a template ends at the first backtick that no backslash takes along, wherever that stands.
So a literal with its substitutions is one lexeme exactly where these hold no such backtick: no
template of their own, and no string that holds one.
-/

namespace DiagnosticHints

namespace Lexicon

variable {c quote : Char} {t body rest : Text}

/-! ## Bodies of literals -/

theorem isBody_escape_iff : IsBody quote ('\\' :: c :: t) ↔ IsBody quote t := by
  constructor
  · intro h
    cases h with
    | escape h => exact h
    | char hslash => exact absurd rfl hslash
  · exact .escape

theorem isBody_char_iff (hslash : c ≠ '\\') :
    IsBody quote (c :: t) ↔ c ≠ quote ∧ (c = '\n' → quote = backtick) ∧ IsBody quote t := by
  constructor
  · intro h
    cases h with
    | escape => exact absurd rfl hslash
    | char _ hne hline h => exact ⟨hne, hline, h⟩
  · rintro ⟨hne, hline, h⟩
    exact h.char hslash hne hline

/-- To a template all characters are alike but the backslash and its quote. -/
theorem isBody_backtick_cons_iff (hslash : c ≠ '\\') (htick : c ≠ backtick) :
    IsBody backtick (c :: t) ↔ IsBody backtick t := by
  rw [isBody_char_iff hslash]
  exact ⟨fun h => h.2.2, fun h => ⟨htick, fun _ => rfl, h⟩⟩

theorem IsBody.append (h : IsBody quote body) (hrest : IsBody quote rest) :
    IsBody quote (body ++ rest) := by
  induction h with
  | nil => exact hrest
  | escape _ ih => exact ih.escape
  | char hslash hne hline _ ih => exact ih.char hslash hne hline

/-- Two bodies pair up their backslashes alike, whatever their quotes are: a body that starts with
one of another quote goes on behind it. -/
theorem IsBody.of_append {quote' : Char} (hbody : IsBody quote' body)
    (h : IsBody quote (body ++ rest)) : IsBody quote body ∧ IsBody quote rest := by
  induction hbody with
  | nil => exact ⟨.nil, h⟩
  | escape _ ih =>
    obtain ⟨hfront, hrest⟩ := ih (isBody_escape_iff.1 h)
    exact ⟨hfront.escape, hrest⟩
  | char hslash _ _ _ ih =>
    obtain ⟨hne, hline, h⟩ := (isBody_char_iff hslash).1 h
    obtain ⟨hfront, hrest⟩ := ih h
    exact ⟨hfront.char hslash hne hline, hrest⟩

/-! ## The form of a literal -/

/-- Where a text stands: right in a template literal, or in one of its substitutions. -/
inductive Level where
  | literal
  | substitution

/-- The texts of template literals and of their substitutions. A literal holds characters, pairs of
a backslash and a character, dollars without a brace behind them, and substitutions. A substitution
holds identifiers, numbers and operators, so all symbols but quotes, backslashes and braces, then
balanced braces, closed strings on one line, and template literals again. With `ticks` turned off
it holds no template, and a string no backtick but behind a backslash. -/
inductive TemplateText (ticks : Bool) : Level → Text → Prop
  | nil {level : Level} : TemplateText ticks level []
  | char {c : Char} {t : Text} : c ≠ backtick → c ≠ '\\' → c ≠ '$' →
      TemplateText ticks .literal t → TemplateText ticks .literal (c :: t)
  | escape {c : Char} {t : Text} :
      TemplateText ticks .literal t → TemplateText ticks .literal ('\\' :: c :: t)
  | dollar {t : Text} : t.head? ≠ some '\x7b' →
      TemplateText ticks .literal t → TemplateText ticks .literal ('$' :: t)
  | substitution {e t : Text} : TemplateText ticks .substitution e →
      TemplateText ticks .literal t →
        TemplateText ticks .literal ('$' :: '\x7b' :: (e ++ '\x7d' :: t))
  | symbol {c : Char} {e : Text} : ¬ isQuote c = true → c ≠ '\\' → c ≠ '\x7b' → c ≠ '\x7d' →
      TemplateText ticks .substitution e → TemplateText ticks .substitution (c :: e)
  | braces {e e' : Text} : TemplateText ticks .substitution e →
      TemplateText ticks .substitution e' →
        TemplateText ticks .substitution ('\x7b' :: (e ++ '\x7d' :: e'))
  | string {q : Char} {b e : Text} : isQuote q = true → q ≠ backtick → IsBody q b → '\n' ∉ b →
      (ticks = false → IsBody backtick b) → TemplateText ticks .substitution e →
        TemplateText ticks .substitution (q :: (b ++ q :: e))
  | template {t e : Text} : ticks = true → TemplateText ticks .literal t →
      TemplateText ticks .substitution e →
        TemplateText ticks .substitution (backtick :: (t ++ backtick :: e))

/-- The template literal with a text between its backticks. -/
def templateLiteral (t : Text) : Text := backtick :: (t ++ [backtick])

namespace TemplateText

variable {level : Level}

theorem symbol_ne_backtick (h : ¬ isQuote c = true) : c ≠ backtick := by
  rintro rfl
  exact h rfl

/-- Without further backticks such a text is the body of one literal. -/
theorem isBody (h : TemplateText false level t) : IsBody backtick t := by
  induction h with
  | nil => exact .nil
  | char htick hslash _ _ ih => exact (isBody_backtick_cons_iff hslash htick).2 ih
  | escape _ ih => exact ih.escape
  | dollar _ _ ih => exact (isBody_backtick_cons_iff (by decide) (by decide)).2 ih
  | substitution _ _ ihe iht =>
    have hclose := (isBody_backtick_cons_iff (c := '\x7d') (by decide) (by decide)).2 iht
    exact ((ihe.append hclose).char (by decide) (by decide) fun _ => rfl).char
      (by decide) (by decide) fun _ => rfl
  | symbol hquote hslash _ _ _ ih =>
    exact (isBody_backtick_cons_iff hslash (symbol_ne_backtick hquote)).2 ih
  | braces _ _ ihe ihe' =>
    have hclose := (isBody_backtick_cons_iff (c := '\x7d') (by decide) (by decide)).2 ihe'
    exact (isBody_backtick_cons_iff (by decide) (by decide)).2 (ihe.append hclose)
  | string hquote htick _ _ hbody _ ih =>
    have hslash := ne_backslash_of_isQuote hquote
    have hclose := (isBody_backtick_cons_iff hslash htick).2 ih
    exact (isBody_backtick_cons_iff hslash htick).2 ((hbody rfl).append hclose)
  | template hticks => cases hticks

/-- Such a text at the start of a body holds no further backticks, and the body goes on behind
it. -/
theorem of_isBody_append (h : TemplateText true level t) (hbody : IsBody backtick (t ++ rest)) :
    TemplateText false level t ∧ IsBody backtick rest := by
  induction h generalizing rest with
  | nil => exact ⟨.nil, hbody⟩
  | char htick hslash hdollar _ ih =>
    obtain ⟨ht, hrest⟩ := ih ((isBody_backtick_cons_iff hslash htick).1 hbody)
    exact ⟨ht.char htick hslash hdollar, hrest⟩
  | escape _ ih =>
    obtain ⟨ht, hrest⟩ := ih (isBody_escape_iff.1 hbody)
    exact ⟨ht.escape, hrest⟩
  | dollar hbrace _ ih =>
    obtain ⟨ht, hrest⟩ := ih ((isBody_backtick_cons_iff (by decide) (by decide)).1 hbody)
    exact ⟨ht.dollar hbrace, hrest⟩
  | substitution _ _ ihe iht =>
    rw [List.cons_append, List.cons_append, List.append_assoc] at hbody
    have hbrace := (isBody_backtick_cons_iff (by decide) (by decide)).1 hbody
    obtain ⟨he, hclose⟩ := ihe ((isBody_backtick_cons_iff (by decide) (by decide)).1 hbrace)
    obtain ⟨ht, hrest⟩ := iht ((isBody_backtick_cons_iff (by decide) (by decide)).1 hclose)
    exact ⟨he.substitution ht, hrest⟩
  | symbol hquote hslash hopen hclose _ ih =>
    obtain ⟨he, hrest⟩ := ih ((isBody_backtick_cons_iff hslash (symbol_ne_backtick hquote)).1 hbody)
    exact ⟨he.symbol hquote hslash hopen hclose, hrest⟩
  | braces _ _ ihe ihe' =>
    rw [List.cons_append, List.append_assoc] at hbody
    obtain ⟨he, hclose⟩ := ihe ((isBody_backtick_cons_iff (by decide) (by decide)).1 hbody)
    obtain ⟨he', hrest⟩ := ihe' ((isBody_backtick_cons_iff (by decide) (by decide)).1 hclose)
    exact ⟨he.braces he', hrest⟩
  | string hquote htick hclosed hline _ _ ih =>
    have hslash := ne_backslash_of_isQuote hquote
    rw [List.cons_append, List.append_assoc] at hbody
    obtain ⟨hstring, hclose⟩ :=
      hclosed.of_append ((isBody_backtick_cons_iff hslash htick).1 hbody)
    obtain ⟨he, hrest⟩ := ih ((isBody_backtick_cons_iff hslash htick).1 hclose)
    exact ⟨he.string hquote htick hclosed hline fun _ => hstring, hrest⟩
  | template => exact absurd rfl ((isBody_char_iff (by decide)).1 hbody).1

theorem isBody_iff (h : TemplateText true level t) :
    IsBody backtick t ↔ TemplateText false level t := by
  constructor
  · intro hbody
    rw [← List.append_nil t] at hbody
    exact (h.of_isBody_append hbody).1
  · exact isBody

end TemplateText

/-! ## The lexemes of a literal -/

theorem not_startsGap_of_isQuote (h : isQuote c = true) : ¬ StartsGap (c :: t) := by
  intro hstart
  cases hstart with
  | space hc => exact not_isSpace_of_isQuote h (decide_eq_true hc)
  | line => cases h
  | block => cases h

/-- A text between backticks is one lexeme where it is the body of a template. -/
theorem lexemes_templateLiteral_iff :
    lexemes (templateLiteral t) = [⟨templateLiteral t, 0⟩] ↔ IsBody backtick t := by
  constructor
  · intro h
    have hmem : (⟨templateLiteral t, 0⟩ : Lexeme) ∈ lexemes (templateLiteral t) := by
      rw [h]
      exact List.mem_singleton_self _
    obtain ⟨c, tail, rest, hraw, -, hlongest, -⟩ :=
      exists_longest_of_mem (List.nil_append _) hmem
    obtain ⟨rfl, rfl⟩ := List.cons.inj hraw
    rcases hlongest.literal rfl with ⟨body, hbody, heq⟩ | hnil
    · rwa [List.append_cancel_right heq]
    · exact absurd hnil (List.append_ne_nil_of_right_ne_nil t (List.cons_ne_nil _ _))
  · intro hbody
    have hne : t ++ [backtick] ≠ [] := List.append_ne_nil_of_right_ne_nil t (List.cons_ne_nil _ _)
    have hcloses : Closes backtick (t ++ [backtick] ++ []) :=
      ⟨t, [], hbody, List.append_nil _⟩
    have hlongest : Longest backtick (t ++ [backtick]) [] :=
      .of_isQuote rfl (Or.inl ⟨t, hbody, rfl⟩)
        ⟨fun h => absurd h hne, fun h => absurd hcloses h⟩
    have hraw : IsRaw (templateLiteral t) :=
      ⟨backtick, _, [], rfl, hlongest, not_startsGap_of_isQuote rfl⟩
    exact hraw.lexemes_eq

/-- **Which literals with substitutions are one lexeme.**  A template literal, its substitutions
nested to any depth, is one lexeme exactly where no substitution holds a template literal, or a
string with a backtick that no backslash takes along. -/
theorem lexemes_templateLiteral (h : TemplateText true .literal t) :
    lexemes (templateLiteral t) = [⟨templateLiteral t, 0⟩] ↔ TemplateText false .literal t :=
  lexemes_templateLiteral_iff.trans h.isBody_iff

/-- Two dollars, and a substitution with braces around a string that holds a backtick and a brace. -/
def bracedString : Text := "$$\x7b\x7bk:\x22\\\x60\x7d\x22\x7d\x7d"

theorem lexemes_templateLiteral_bracedString :
    TemplateText true .literal bracedString ∧
      (lexemes (templateLiteral bracedString) = [⟨templateLiteral bracedString, 0⟩] ↔
        TemplateText false .literal bracedString) := by
  have hstring : TemplateText true .substitution "\x22\\\x60\x7d\x22" :=
    .string (q := '\x22') (b := "\\\x60\x7d".toList) (e := []) rfl (by decide)
      (.escape (.char (by decide) (by decide) (by decide) .nil)) (by decide) nofun .nil
  have hname : TemplateText true .substitution "k:\x22\\\x60\x7d\x22" :=
    .symbol (by decide) (by decide) (by decide) (by decide)
      (.symbol (by decide) (by decide) (by decide) (by decide) hstring)
  have hbraces : TemplateText true .substitution "\x7bk:\x22\\\x60\x7d\x22\x7d" :=
    .braces (e := "k:\x22\\\x60\x7d\x22".toList) hname .nil
  have hliteral : TemplateText true .literal bracedString :=
    .dollar (by decide) (.substitution (e := "\x7bk:\x22\\\x60\x7d\x22\x7d".toList) hbraces .nil)
  exact ⟨hliteral, lexemes_templateLiteral hliteral⟩

/-- A literal in a literal is not kept whole: the inner backticks end the lexemes around it. -/
theorem not_forall_lexemes_templateLiteral :
    ¬ ∀ t, TemplateText true .literal t →
      lexemes (templateLiteral t) = [⟨templateLiteral t, 0⟩] := by
  intro h
  have hinner : TemplateText true .substitution "\x60a\x60" :=
    .template (t := ['a']) (e := []) rfl
      (.char (by decide) (by decide) (by decide) .nil) .nil
  have houter : TemplateText true .literal "$\x7b\x60a\x60\x7d" :=
    .substitution (e := "\x60a\x60".toList) (t := []) hinner .nil
  have hlexemes : lexemes (templateLiteral "$\x7b\x60a\x60\x7d") =
      [⟨"\x60$\x7b\x60", 0⟩, ⟨['a'], 4⟩, ⟨"\x60\x7d\x60", 5⟩] := by
    decide +kernel
  rw [h _ houter] at hlexemes
  exact absurd hlexemes (by decide)

end Lexicon

end DiagnosticHints
