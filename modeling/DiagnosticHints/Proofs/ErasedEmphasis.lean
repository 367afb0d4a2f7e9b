import DiagnosticHints.Proofs.Verbatim

/-!
# Emphasis that can be erased

An emphasis that puts marks around a subject decorates a suggestion and changes nothing else in it:
without the characters of the marks it is the plain suggestion again. The subjects are settled
before they are decorated, each of them is decorated on its own, and nothing is looked for in a
decorated text. What is needed is that the marks are told from the rest, so that none of their
characters stands in the message, in a token or in the catalog.
-/

namespace DiagnosticHints

namespace Text

/-- The text without some characters. -/
def erase (marks : List Char) (t : Text) : Text := t.filter fun c => !marks.contains c

theorem erase_append (marks : List Char) (a b : Text) :
    erase marks (a ++ b) = erase marks a ++ erase marks b :=
  List.filter_append ..

theorem erase_eq_self {marks : List Char} {t : Text} (h : ∀ c ∈ marks, c ∉ t) :
    erase marks t = t := by
  apply List.filter_eq_self.2
  intro c hc
  have hmark : c ∉ marks := fun hmem => h c hmem hc
  simp [hmark]

theorem erase_eq_nil {marks : List Char} {t : Text} (h : ∀ c ∈ t, c ∈ marks) :
    erase marks t = [] := by
  apply List.filter_eq_nil_iff.2
  intro c hc
  simp [h c hc]

/-- Foreign characters can be checked one by one, without a search through all characters. -/
theorem not_mem_of_all {marks : List Char} {t : Text}
    (h : (marks.all fun c => !t.contains c) = true) : ∀ c ∈ marks, c ∉ t := by
  intro c hc
  have hcontains := List.all_eq_true.1 h c hc
  simpa using hcontains

end Text

/-! ## Decorated templates -/

namespace Template

theorem mem_of_mem_source {piece : Piece} {template : Text} (h : piece ∈ pieces template) {c : Char}
    (hc : c ∈ piece.source) : c ∈ template := by
  rw [← flatMap_source_pieces template]
  exact List.mem_flatMap.2 ⟨piece, h, hc⟩

/-- Erasing marks in a filled template is erasing them in its values. -/
theorem erase_fill {marks : List Char} {decorated value : Text → Option Text} {template : Text}
    (htemplate : ∀ c ∈ marks, c ∉ template)
    (hvalue : ∀ key, (decorated key).map (Text.erase marks) = value key) :
    Text.erase marks (fill decorated template) = fill value template := by
  have hsource : ∀ piece ∈ pieces template, Text.erase marks piece.source = piece.source := by
    intro piece hmem
    apply Text.erase_eq_self
    intro c hc hin
    exact htemplate c hc (mem_of_mem_source hmem hin)
  rw [fill, fill, Text.erase, List.filter_flatMap]
  apply List.flatMap_congr
  intro piece hmem
  show Text.erase marks (piece.fill decorated) = piece.fill value
  cases piece with
  | char c => exact hsource _ hmem
  | hole key =>
    rw [Piece.fill, Piece.fill, ← hvalue key]
    cases decorated key with
    | none => exact hsource _ hmem
    | some v => rfl

end Template

/-- Texts that are put in front of a subject and behind it, by its tone. -/
structure Marking where
  opening : Tone → Text
  closing : Tone → Text

namespace Marking

/-- The emphasis that puts a subject between its marks. -/
def emphasis (m : Marking) : Emphasis := fun value tone => m.opening tone ++ value ++ m.closing tone

/-- The characters of all marks. -/
def chars (m : Marking) : List Char := Tone.all.flatMap fun tone => m.opening tone ++ m.closing tone

variable {m : Marking}

theorem mem_chars {c : Char} {tone : Tone} (h : c ∈ m.opening tone ++ m.closing tone) :
    c ∈ m.chars := by
  have hall : tone ∈ Tone.all := by cases tone <;> decide
  exact List.mem_flatMap.2 ⟨tone, hall, h⟩

theorem erase_emphasis {value : Text} (h : ∀ c ∈ m.chars, c ∉ value) (tone : Tone) :
    Text.erase m.chars (m.emphasis value tone) = value := by
  have hopening : Text.erase m.chars (m.opening tone) = [] := by
    apply Text.erase_eq_nil
    intro c hc
    exact mem_chars (List.mem_append_left _ hc)
  have hclosing : Text.erase m.chars (m.closing tone) = [] := by
    apply Text.erase_eq_nil
    intro c hc
    exact mem_chars (List.mem_append_right _ hc)
  rw [emphasis, Text.erase_append, Text.erase_append, hopening, hclosing, Text.erase_eq_self h]
  simp

end Marking

/-! ## Decorated suggestions -/

/-- The suggestion without some characters. -/
def Suggestion.erase (marks : List Char) (s : Suggestion) : Suggestion where
  lines := s.lines.map (Text.erase marks)
  help := s.help.map (Text.erase marks)

section

variable {m : Marking}

/-- Without the marks around its subjects a sentence is plain. -/
theorem Sentence.erase_text {x : Sentence} (entry : Entry)
    (htemplate : ∀ c ∈ m.chars, c ∉ x.template)
    (hsubjects : ∀ y ∈ x.subjects, ∀ c ∈ m.chars, c ∉ y.2) :
    Text.erase m.chars (x.text entry m.emphasis) = x.text entry .plain := by
  apply Template.erase_fill htemplate
  intro key
  cases hlookup : x.subjects.lookup key with
  | none => rfl
  | some value =>
    have hvalue : ∀ c ∈ m.chars, c ∉ value := hsubjects _ (Text.mem_of_lookup hlookup)
    simp only [Option.map_some, Marking.erase_emphasis hvalue]
    rfl

theorem Outline.erase_suggestion {o : Outline}
    (h : ∀ x ∈ o.sentences, ∀ c ∈ m.chars, c ∉ x.template ∧ ∀ y ∈ x.subjects, c ∉ y.2) :
    (o.suggestion m.emphasis).erase m.chars = o.suggestion .plain := by
  have htext : ∀ x ∈ o.sentences,
      Text.erase m.chars (x.text o.entry m.emphasis) = x.text o.entry .plain := by
    intro x hx
    exact x.erase_text o.entry (fun c hc => (h x hx c hc).1) fun y hy c hc => (h x hx c hc).2 y hy
  have hlines : (o.lines.map fun x => x.text o.entry m.emphasis).map (Text.erase m.chars) =
      o.lines.map fun x => x.text o.entry .plain := by
    rw [List.map_map]
    apply List.map_congr_left
    intro x hx
    exact htext x (List.mem_append_left _ hx)
  have hhelp : (o.help.map fun x => x.text o.entry m.emphasis).map (Text.erase m.chars) =
      o.help.map fun x => x.text o.entry .plain := by
    rw [Option.map_map]
    apply Option.map_congr
    intro x hx
    exact htext x (List.mem_append_right _ (by simpa using hx))
  rw [suggestion, suggestion, Suggestion.erase, hlines, hhelp]

end

/-- Characters that stand in nothing a suggestion for a diagnostic can be made of: neither in its
message, nor in the tokens, nor in the templates and nouns of its problem. -/
structure ForeignTo (marks : List Char) (d : Diagnostic) (tokens : List Token) : Prop where
  message : ∀ c ∈ marks, c ∉ d.message
  tokens : ∀ token ∈ tokens, ∀ c ∈ marks, c ∉ token.raw
  catalog : ∀ p, d.kind = .known p → ∀ t ∈ p.texts, ∀ c ∈ marks, c ∉ t

theorem ForeignTo.not_mem {marks : List Char} {d : Diagnostic} {tokens : List Token}
    (h : ForeignTo marks d tokens) {p : Problem} (hp : d.kind = .known p) {t : Text}
    (ht : Origin p d tokens t) : ∀ c ∈ marks, c ∉ t := by
  intro c hc
  cases ht with
  | catalog hmem => exact h.catalog p hp t hmem c hc
  | message hpart => exact fun hin => h.message c hc (hpart.subset hin)
  | token hmem => exact h.tokens _ hmem c hc

/-- **Emphasis only decorates.**  Let an emphasis put subjects between marks, by their tone, whose
characters stand neither in the message nor in a token nor in the catalog. Without these characters
the suggestion under this emphasis is the plain one: it is there when the plain one is, with as many
lines and with help when that has help, and each of these texts is what the plain one has in its
place. -/
theorem Diagnostic.erase_suggest?_emphasis (d : Diagnostic) (tokens : List Token) (m : Marking)
    (h : ForeignTo m.chars d tokens) :
    (d.suggest? tokens ⟨m.emphasis, fun _ => none⟩).map (Suggestion.erase m.chars) =
      d.suggest? tokens .plain := by
  rw [Options.plain, suggest?_eq_outline, suggest?_eq_outline, Option.map_map]
  apply Option.map_congr
  intro o ho
  apply Outline.erase_suggestion
  intro x hx c hc
  rw [outline?] at ho
  cases hkind : d.kind with
  | unsupported code =>
    rw [hkind] at ho
    cases ho
  | known p =>
    rw [hkind] at ho
    obtain ⟨htemplate, hsubjects⟩ := p.origin_sentences ho hx
    refine ⟨h.not_mem hkind htemplate c hc, ?_⟩
    intro y hy
    exact h.not_mem hkind (hsubjects y hy) c hc

/-- Two subjects of different tones, both of which look like a hole with its template. -/
def disguised : Diagnostic where
  file := "a.ts"
  line := 1
  column := 1
  kind := .known .typeMismatch
  message := "Type '{to}' is not assignable to type '`{from}`'."

/-- Marks of two characters in front of a subject, the second one by its tone, and one behind it. -/
def toneMarking : Marking where
  opening
    | .error => "\x1b«"
    | .expected => "\x1b‹"
    | .warning => "\x1b~"
  closing _ := "»"

theorem erase_suggest?_disguised :
    ForeignTo toneMarking.chars disguised [] ∧
    disguised.suggest? [] ⟨toneMarking.emphasis, fun _ => none⟩ = some
      { lines := ["Try converting this value from `\x1b«{to}»` to `\x1b‹`{from}`»`.".toList]
        help := some
          "Ensure that the types are compatible or perform an explicit conversion.".toList } ∧
    (disguised.suggest? [] ⟨toneMarking.emphasis, fun _ => none⟩).map
        (Suggestion.erase toneMarking.chars) = disguised.suggest? [] .plain :=
  have h : ForeignTo toneMarking.chars disguised [] :=
    { message := Text.not_mem_of_all (by decide +kernel)
      tokens := by simp
      catalog := by
        intro p hp t ht
        cases hp
        have hall : ∀ t ∈ Problem.typeMismatch.texts,
            (toneMarking.chars.all fun c => !t.contains c) = true := by decide +kernel
        exact Text.not_mem_of_all (hall t ht) }
  ⟨h, by decide +kernel, disguised.erase_suggest?_emphasis [] toneMarking h⟩

end DiagnosticHints
