import DiagnosticHints.Proofs.TemplateFilling

/-!
# Outlines of suggestions

A standard suggestion is settled before anything in it is emphasised: which templates it is made of,
and which subjects go into their holes. This is its outline. The emphasis only enters when the
outline is written out, and it is given one subject at a time.
-/

namespace DiagnosticHints

/-- A template with the subjects for its holes. -/
structure Sentence where
  template : Text
  subjects : Subjects
  deriving DecidableEq, Repr

/-- The text of a sentence, with its subjects emphasised as the entry says. -/
def Sentence.text (x : Sentence) (entry : Entry) (emphasis : Emphasis) : Text :=
  entry.fill x.subjects emphasis x.template

/-- The sentences of a suggestion. -/
structure Outline where
  entry : Entry
  lines : List Sentence
  help : Option Sentence
  deriving DecidableEq, Repr

/-- The lines and the help of a suggestion. -/
def Suggestion.texts (s : Suggestion) : List Text := s.lines ++ s.help.toList

/-- The templates of an entry that are used when its subject is not found. -/
def Entry.fallbackTemplates (entry : Entry) : List Text :=
  match entry.fallback with
  | none => entry.templates
  | some fallback => fallback.suggestions ++ (fallback.help.or entry.help).toList

namespace Outline

/-- The suggestion that an outline is written out to. -/
def suggestion (o : Outline) (emphasis : Emphasis) : Suggestion where
  lines := o.lines.map fun x => x.text o.entry emphasis
  help := o.help.map fun x => x.text o.entry emphasis

/-- All sentences of an outline. -/
def sentences (o : Outline) : List Sentence := o.lines ++ o.help.toList

theorem texts_suggestion (o : Outline) (emphasis : Emphasis) :
    (o.suggestion emphasis).texts = o.sentences.map fun x => x.text o.entry emphasis := by
  cases h : o.help <;> simp [Suggestion.texts, suggestion, sentences, h]

/-- The outline of an entry with some subjects. -/
def ofEntry (entry : Entry) (subjects : Subjects) : Outline where
  entry := entry
  lines := entry.suggestions.map fun template => ⟨template, subjects⟩
  help := entry.help.map fun template => ⟨template, subjects⟩

/-- The outline of an entry whose subject is not found. -/
def ofFallback (entry : Entry) : Outline :=
  match entry.fallback with
  | none => ofEntry entry []
  | some fallback =>
    { entry := entry
      lines := fallback.suggestions.map fun template => ⟨template, []⟩
      help := (fallback.help.or entry.help).map fun template => ⟨template, []⟩ }

/-- The outline of an entry with the lines once for each of some properties. -/
def ofDifferences (entry : Entry) (differences : List PropertyDifference) : Outline where
  entry := entry
  lines := differences.flatMap fun x =>
    entry.suggestions.map fun template => ⟨template, Strategy.differenceSubjects x⟩
  help := entry.help.map fun template => ⟨template, []⟩

theorem suggestion_ofEntry (entry : Entry) (subjects : Subjects) (emphasis : Emphasis) :
    (ofEntry entry subjects).suggestion emphasis = entry.suggestion subjects emphasis := by
  simp [suggestion, ofEntry, Entry.suggestion, Entry.fillAll, Entry.fillHelp, Sentence.text,
    Function.comp_def]

theorem suggestion_ofFallback (entry : Entry) (emphasis : Emphasis) :
    (ofFallback entry).suggestion emphasis = entry.fallbackSuggestion [] emphasis := by
  cases h : entry.fallback with
  | none =>
    rw [ofFallback, Entry.fallbackSuggestion]
    simp only [h]
    exact suggestion_ofEntry entry [] emphasis
  | some fallback =>
    simp [suggestion, ofFallback, Entry.fallbackSuggestion, Entry.fillAll, Entry.fillHelp,
      Sentence.text, Function.comp_def, h]

/-! ### The sentences of an outline -/

theorem mem_sentences_ofEntry {entry : Entry} {subjects : Subjects} {x : Sentence}
    (h : x ∈ (ofEntry entry subjects).sentences) :
    x.template ∈ entry.templates ∧ x.subjects = subjects := by
  simp only [sentences, ofEntry, List.mem_append, List.mem_map, Option.mem_toList,
    Option.map_eq_some_iff] at h
  rcases h with ⟨template, hmem, rfl⟩ | ⟨template, hhelp, rfl⟩
  · exact ⟨List.mem_append_left _ hmem, rfl⟩
  · exact ⟨List.mem_append_right _ (by simp [hhelp]), rfl⟩

theorem mem_sentences_ofFallback {entry : Entry} {x : Sentence}
    (h : x ∈ (ofFallback entry).sentences) :
    x.template ∈ entry.fallbackTemplates ∧ x.subjects = [] := by
  rw [ofFallback] at h
  rw [Entry.fallbackTemplates]
  cases hfallback : entry.fallback with
  | none =>
    simp only [hfallback] at h
    exact mem_sentences_ofEntry h
  | some fallback =>
    simp only [hfallback, sentences, List.mem_append, List.mem_map, Option.mem_toList,
      Option.map_eq_some_iff] at h
    rcases h with ⟨template, hmem, rfl⟩ | ⟨template, hhelp, rfl⟩
    · exact ⟨List.mem_append_left _ hmem, rfl⟩
    · exact ⟨List.mem_append_right _ (by simp [hhelp]), rfl⟩

theorem mem_sentences_ofDifferences {entry : Entry} {differences : List PropertyDifference}
    {x : Sentence} (h : x ∈ (ofDifferences entry differences).sentences) :
    (x.template ∈ entry.suggestions ∧
      ∃ y ∈ differences, x.subjects = Strategy.differenceSubjects y) ∨
    (entry.help = some x.template ∧ x.subjects = []) := by
  simp only [sentences, ofDifferences, List.mem_append, List.mem_flatMap, List.mem_map,
    Option.mem_toList, Option.map_eq_some_iff] at h
  rcases h with ⟨y, hy, template, hmem, rfl⟩ | ⟨template, hhelp, rfl⟩
  · exact Or.inl ⟨hmem, y, hy, rfl⟩
  · exact Or.inr ⟨hhelp, rfl⟩

end Outline

/-- The properties that a message reports as different. -/
def Message.reported (message : Text) : List PropertyDifference :=
  ((Message.argumentDifference? message).map (·.properties)).getD []

/-- The outline of the standard suggestion for a problem. -/
def Problem.outline? (p : Problem) (d : Diagnostic) (tokens : List Token) : Option Outline :=
  match p with
  | .objectPossiblyNull => none
  | .objectIsUnknown => none
  | .inlineTypeMismatch =>
    some (.ofDifferences Problem.inlineTypeMismatch.entry (Message.reported d.message))
  | .propertyMissingInType =>
    if (Reading.lastType d tokens).isSome then
      some (.ofEntry Problem.propertyMissingInType.entry
        (Problem.propertyMissingInType.subjects.map (·.read d tokens)))
    else some (.ofFallback Problem.propertyMissingInType.entry)
  | p => some (.ofEntry p.entry (p.subjects.map (·.read d tokens)))

/-- The outline of the standard suggestion for a diagnostic. -/
def Diagnostic.outline? (d : Diagnostic) (tokens : List Token) : Option Outline :=
  match d.kind with
  | .unsupported _ => none
  | .known p => p.outline? d tokens

/-- The three kinds of outlines. -/
theorem Problem.outline?_cases {p : Problem} {d : Diagnostic} {tokens : List Token} {o : Outline}
    (h : p.outline? d tokens = some o) :
    (p = .inlineTypeMismatch ∧ o = .ofDifferences p.entry (Message.reported d.message)) ∨
    (p = .propertyMissingInType ∧ o = .ofFallback p.entry) ∨
    (p ≠ .inlineTypeMismatch ∧ o = .ofEntry p.entry (p.subjects.map (·.read d tokens))) := by
  cases p
  case objectPossiblyNull => cases h
  case objectIsUnknown => cases h
  case inlineTypeMismatch => exact Or.inl ⟨rfl, (Option.some.inj h).symm⟩
  case propertyMissingInType =>
    rw [outline?] at h
    split at h
    · exact Or.inr (Or.inr ⟨by decide, (Option.some.inj h).symm⟩)
    · exact Or.inr (Or.inl ⟨rfl, (Option.some.inj h).symm⟩)
  all_goals exact Or.inr (Or.inr ⟨by decide, (Option.some.inj h).symm⟩)

theorem Outline.suggestion_ofDifferences (d : Diagnostic) (tokens : List Token)
    (emphasis : Emphasis) :
    some ((ofDifferences Problem.inlineTypeMismatch.entry (Message.reported d.message)).suggestion
      emphasis) = Strategy.perDifference d tokens emphasis := by
  simp [suggestion, ofDifferences, Strategy.perDifference, Message.reported, Entry.fillAll,
    Entry.fillHelp, Sentence.text, Function.comp_def, List.map_flatMap]

theorem Strategy.standard?_eq_outline (p : Problem) (d : Diagnostic) (tokens : List Token)
    (emphasis : Emphasis) :
    (standard? p).bind (fun strategy => strategy d tokens emphasis) =
      (p.outline? d tokens).map fun o => o.suggestion emphasis := by
  cases p
  case objectPossiblyNull => rfl
  case objectIsUnknown => rfl
  case inlineTypeMismatch => exact (Outline.suggestion_ofDifferences d tokens emphasis).symm
  case propertyMissingInType =>
    cases h : Reading.lastType d tokens with
    | none =>
      simp [standard?, missingProperty, Problem.outline?, h, Outline.suggestion_ofFallback]
    | some type =>
      simp [standard?, missingProperty, fromSubjects, Problem.outline?, h,
        Outline.suggestion_ofEntry]
  -- every other strategy fills the templates of its problem with the subjects
  all_goals
    exact congrArg some (Outline.suggestion_ofEntry _ _ emphasis).symm

/-- Without replaced strategies a suggestion is its outline, written out with the emphasis. -/
theorem Diagnostic.suggest?_eq_outline (d : Diagnostic) (tokens : List Token)
    (emphasis : Emphasis) :
    d.suggest? tokens ⟨emphasis, fun _ => none⟩ =
      (d.outline? tokens).map fun o => o.suggestion emphasis := by
  rw [suggest?, outline?]
  cases d.kind with
  | unsupported code => rfl
  | known p => exact Strategy.standard?_eq_outline p d tokens emphasis

end DiagnosticHints
