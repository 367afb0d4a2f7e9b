import DiagnosticHints.Proofs.Outline

/-!
# Complete suggestions

Whatever the message and the tokens are, a problem with a standard strategy gets a suggestion with
help and with lines, and no hole of a template stays open: each sentence of an outline has a subject
for every hole, as a missing subject is replaced by a noun. Braces that can be seen in a suggestion
come from the subjects.
-/

namespace DiagnosticHints

/-- A text without braces. -/
def Text.Braceless (t : Text) : Prop := '\x7b' ∉ t ∧ '\x7d' ∉ t

instance (t : Text) : Decidable t.Braceless := inferInstanceAs (Decidable (_ ∧ _))

/-- A template with holes for some keys only, and no other brace, has no brace when it is filled with
values that have none. -/
theorem Template.braceless_fill {keys : List Text} {value : Text → Option Text} {template : Text}
    (h : hasOnly keys template = true)
    (hvalue : ∀ key ∈ keys, ∃ v, value key = some v ∧ v.Braceless) :
    (fill value template).Braceless := by
  have hpiece : ∀ piece ∈ pieces template, (piece.fill value).Braceless := by
    intro piece hmem
    have honly := List.all_eq_true.1 h piece hmem
    cases piece with
    | char c =>
      rw [Bool.and_eq_true, bne_iff_ne, bne_iff_ne] at honly
      simp [Piece.fill, Text.Braceless, Ne.symm honly.1, Ne.symm honly.2]
    | hole key =>
      obtain ⟨v, hv, hbraceless⟩ := hvalue key (List.contains_iff_mem.1 honly)
      rwa [Piece.fill, hv, Option.getD_some]
  constructor
  · intro hmem
    obtain ⟨piece, hin, hbrace⟩ := List.mem_flatMap.1 hmem
    exact (hpiece piece hin).1 hbrace
  · intro hmem
    obtain ⟨piece, hin, hbrace⟩ := List.mem_flatMap.1 hmem
    exact (hpiece piece hin).2 hbrace

namespace Sentence

/-- A sentence with a subject for each of its holes. -/
def Closed (x : Sentence) : Prop :=
  Template.hasOnly (x.subjects.map (·.1)) x.template = true

theorem Closed.braceless_text {x : Sentence} (h : x.Closed) (entry : Entry) {emphasis : Emphasis}
    (hemphasis : ∀ value tone, (emphasis value tone).Braceless) :
    (x.text entry emphasis).Braceless := by
  apply Template.braceless_fill h
  intro key hkey
  obtain ⟨subject, hsubject, -⟩ := Text.exists_lookup_of_mem_keys hkey
  exact ⟨_, by rw [hsubject, Option.map_some], hemphasis _ _⟩

end Sentence

/-! ## The sentences of each problem -/

theorem hasOnly_differenceTemplates :
    ∀ template ∈ Problem.inlineTypeMismatch.entry.suggestions,
      Template.hasOnly ["expected", "property", "provided"] template = true := by
  refine List.forall_mem_cons.2 ⟨Template.hasOnly_toList rfl (by decide +kernel), ?_⟩
  exact List.forall_mem_nil _

theorem hasOnly_differenceHelp :
    ∀ template ∈ Problem.inlineTypeMismatch.entry.help, Template.hasOnly [] template = true := by
  intro template h
  cases h
  exact Template.hasOnly_toList rfl (by decide +kernel)

theorem hasOnly_fallbackTemplates :
    ∀ template ∈ Problem.propertyMissingInType.entry.fallbackTemplates,
      Template.hasOnly [] template = true := by
  repeat refine List.forall_mem_cons.2 ⟨Template.hasOnly_toList rfl (by decide +kernel), ?_⟩
  exact List.forall_mem_nil _

section

variable {p : Problem} {d : Diagnostic} {tokens : List Token} {o : Outline}

/-- Each sentence has a subject for every hole, whatever could be read and whatever not. -/
theorem Problem.closed_sentences (h : p.outline? d tokens = some o) :
    ∀ x ∈ o.sentences, x.Closed := by
  intro x hx
  rcases outline?_cases h with ⟨rfl, rfl⟩ | ⟨rfl, rfl⟩ | ⟨hp, rfl⟩
  · rcases Outline.mem_sentences_ofDifferences hx with ⟨hmem, y, -, hsubjects⟩ | ⟨hhelp, hsubjects⟩
    · rw [Sentence.Closed, hsubjects]
      exact hasOnly_differenceTemplates _ hmem
    · rw [Sentence.Closed, hsubjects]
      exact hasOnly_differenceHelp _ hhelp
  · obtain ⟨hmem, hsubjects⟩ := Outline.mem_sentences_ofFallback hx
    rw [Sentence.Closed, hsubjects]
    exact hasOnly_fallbackTemplates _ hmem
  · obtain ⟨hmem, hsubjects⟩ := Outline.mem_sentences_ofEntry hx
    have hkeys : x.subjects.map (·.1) = p.subjects.map (·.key) := by
      rw [hsubjects, List.map_map]
      rfl
    rw [Sentence.Closed, hkeys]
    exact hasOnly_templates hp _ hmem

theorem Problem.outline?_eq_none_iff :
    p.outline? d tokens = none ↔ p = .objectIsUnknown ∨ p = .objectPossiblyNull := by
  cases p
  case propertyMissingInType =>
    rw [outline?]
    split <;> simp
  all_goals simp [outline?]

theorem Problem.help_isSome (h : p.outline? d tokens = some o) : o.help.isSome = true := by
  cases p
  case objectIsUnknown => cases h
  case objectPossiblyNull => cases h
  all_goals rcases outline?_cases h with ⟨-, rfl⟩ | ⟨-, rfl⟩ | ⟨-, rfl⟩ <;> rfl

theorem Problem.lines_ne_nil (hp : p ≠ .inlineTypeMismatch) (h : p.outline? d tokens = some o) :
    o.lines ≠ [] := by
  cases p
  case inlineTypeMismatch => exact absurd rfl hp
  case objectIsUnknown => cases h
  case objectPossiblyNull => cases h
  case propertyMissingInType =>
    rcases outline?_cases h with ⟨hp, -⟩ | ⟨-, rfl⟩ | ⟨-, rfl⟩
    · cases hp
    · exact List.cons_ne_nil _ _
    · exact List.cons_ne_nil _ _
  all_goals
    rcases outline?_cases h with ⟨hp, -⟩ | ⟨hp, -⟩ | ⟨-, rfl⟩
    · cases hp
    · cases hp
    · exact List.cons_ne_nil _ _

/-- There is one template for a property that differs. -/
theorem Problem.length_lines (h : Problem.inlineTypeMismatch.outline? d tokens = some o) :
    o.lines.length = (Message.reported d.message).length := by
  cases h
  rw [Outline.ofDifferences]
  induction Message.reported d.message with
  | nil => rfl
  | cons x differences ih =>
    rw [List.flatMap_cons, List.length_append, ih, List.length_cons, Nat.add_comm]
    rfl

end

/-- **Every covered diagnostic gets a complete suggestion.**  There is no standard suggestion exactly
for an unknown code and for the two problems without a strategy. Every other one has help, and at
least one line; where properties of object types differ it has one line for each of these, so maybe
none. No hole stays open: under an emphasis that replaces the subjects by texts without braces, such
as one and the same text, there is no brace in the suggestion. -/
theorem Diagnostic.suggest?_complete (d : Diagnostic) (tokens : List Token) (emphasis : Emphasis) :
    (d.suggest? tokens ⟨emphasis, fun _ => none⟩ = none ↔
      (∃ code, d.kind = .unsupported code) ∨ d.kind = .known .objectIsUnknown ∨
        d.kind = .known .objectPossiblyNull) ∧
    ∀ s, d.suggest? tokens ⟨emphasis, fun _ => none⟩ = some s →
      s.help.isSome = true ∧
      (d.kind ≠ .known .inlineTypeMismatch → s.lines ≠ []) ∧
      (d.kind = .known .inlineTypeMismatch →
        s.lines.length = (Message.reported d.message).length) ∧
      ((∀ value tone, (emphasis value tone).Braceless) → ∀ t ∈ s.texts, t.Braceless) := by
  rw [suggest?_eq_outline, outline?]
  cases hkind : d.kind with
  | unsupported code => simp
  | known p =>
    simp only [Option.map_eq_none_iff, Problem.outline?_eq_none_iff, Option.map_eq_some_iff]
    refine ⟨by simp, ?_⟩
    rintro s ⟨o, ho, rfl⟩
    refine ⟨?_, ?_, ?_, ?_⟩
    · rw [Outline.suggestion, Option.isSome_map]
      exact Problem.help_isSome ho
    · intro hp
      have hlines := Problem.lines_ne_nil (fun heq => hp (congrArg Kind.known heq)) ho
      simpa [Outline.suggestion] using hlines
    · intro hp
      cases hp
      rw [Outline.suggestion, List.length_map]
      exact Problem.length_lines ho
    · intro hemphasis t ht
      rw [Outline.texts_suggestion] at ht
      obtain ⟨x, hx, rfl⟩ := List.mem_map.1 ht
      exact (Problem.closed_sentences ho x hx).braceless_text o.entry hemphasis

/-- One of two properties is provided with another type, and the types are named with braces. -/
def oneDifference : Diagnostic where
  file := "a.ts"
  line := 1
  column := 1
  kind := .known .inlineTypeMismatch
  message := "Argument of type '\x7b a: \x7bb\x7d; c: d \x7d' is not assignable ".toList ++
    "to parameter of type '\x7b c: d; a: \x7bname\x7d \x7d'.".toList

/-- The property that differs, with its two types. -/
theorem reported_oneDifference : Message.reported oneDifference.message =
    [⟨"a", "\x7bb\x7d", "\x7bname\x7d"⟩] := by
  have hprovided : Message.firstAfter? oneDifference.message Message.argumentMark =
      some "\x7b a: \x7bb\x7d; c: d \x7d".toList := by decide +kernel
  have hexpected : Message.firstAfter? oneDifference.message Message.parameterMark =
      some "\x7b c: d; a: \x7bname\x7d \x7d".toList := by decide +kernel
  rw [Message.reported, Message.argumentDifference?, hprovided, hexpected]
  show PropertyMap.differences _ _ = _
  -- there is one way to sort a single difference
  apply List.perm_singleton.1
  rw [PropertyMap.differences]
  refine ((List.mergeSort_perm _ _).filterMap _).trans (List.Perm.of_eq ?_)
  decide +kernel

/-- The one line is that of the catalog about the property that differs, and shows no brace that is
not in a type. -/
theorem suggest?_oneDifference :
    ∃ s, oneDifference.suggest? [] ⟨fun _ _ => "x".toList, fun _ => none⟩ = some s ∧
      s.help.isSome = true ∧ s.lines.length = 1 ∧ (∀ t ∈ s.texts, t.Braceless) ∧
      s.lines = ["Property `x` is provided as `x` but expects `x`.".toList] ∧
      s.help =
        some "Check the function arguments to ensure they match the expected parameter types." := by
  obtain ⟨hnone, hsome⟩ := oneDifference.suggest?_complete [] (fun _ _ => "x".toList)
  have hmade : oneDifference.suggest? [] ⟨fun _ _ => "x".toList, fun _ => none⟩ ≠ none := by
    rw [ne_eq, hnone]
    simp [oneDifference]
  obtain ⟨s, hs⟩ := Option.ne_none_iff_exists'.1 hmade
  obtain ⟨hhelp, -, hlines, hbraceless⟩ := hsome s hs
  have hfilled : s = (Outline.ofDifferences Problem.inlineTypeMismatch.entry
      [⟨"a", "\x7bb\x7d", "\x7bname\x7d"⟩]).suggestion fun _ _ => "x".toList := by
    rw [Diagnostic.suggest?_eq_outline, Diagnostic.outline?] at hs
    rw [← reported_oneDifference]
    exact (Option.some.inj hs).symm
  refine ⟨s, hs, hhelp, ?_, hbraceless fun _ _ => by decide, ?_, ?_⟩
  · rw [hlines rfl, reported_oneDifference]
    rfl
  · rw [hfilled]
    decide +kernel
  · rw [hfilled]
    decide +kernel

end DiagnosticHints
