import DiagnosticHints.Proofs.Occurrences
import DiagnosticHints.Proofs.Outline

/-!
# Where subjects come from

A subject is never made up of characters from several places: it stands as it is in the message, it
is the raw text of a token, or it is the noun that replaces a missing one. The proofs follow the
searches, each of which leaves a part of the text it searches.
-/

namespace DiagnosticHints

/-! ## Parts of a text -/

namespace Text

theorem suffix_of_afterFirst? {marker t rest : Text} (h : afterFirst? marker t = some rest) :
    rest <:+ t := by
  obtain ⟨⟨before, after⟩, hsplit, rfl⟩ := Option.map_eq_some_iff.1 h
  exact ⟨before ++ marker, append_of_splitFirst? hsplit⟩

theorem prefix_of_splitFirst? {marker t before after : Text}
    (h : splitFirst? marker t = some (before, after)) : before <+: t :=
  ⟨marker ++ after, by rw [← List.append_assoc, append_of_splitFirst? h]⟩

theorem prefix_of_beforeFirst? {marker t before : Text} (h : beforeFirst? marker t = some before) :
    before <+: t := by
  obtain ⟨⟨before, after⟩, hsplit, rfl⟩ := Option.map_eq_some_iff.1 h
  exact prefix_of_splitFirst? hsplit

theorem suffix_of_afterLast? {marker t rest : Text} (h : afterLast? marker t = some rest) :
    rest <:+ t := by
  induction t with
  | nil =>
    rw [afterLast?] at h
    split at h
    · cases h
      exact List.suffix_refl _
    · cases h
  | cons c t ih =>
    rw [afterLast?] at h
    split at h
    · next hrest =>
      cases h
      exact (ih hrest).trans (List.suffix_cons c t)
    · split at h
      · cases h
        exact List.drop_suffix _ _
      · cases h

theorem trim_infix (t : Text) : trim t <:+: t := by
  have hend : trimEnd (trimStart t) <+: trimStart t := by
    rw [trimEnd, ← List.reverse_suffix, List.reverse_reverse]
    exact List.dropWhile_suffix _
  exact hend.isInfix.trans (List.dropWhile_suffix _).isInfix

end Text

/-! ## Quoted parts -/

namespace Message

theorem infix_of_part? {message v : Text} {index : Int} (h : part? message index = some v) :
    v <:+: message := by
  cases index with
  | ofNat n => exact Text.infix_of_mem_splitOn (List.mem_of_getElem? h)
  | negSucc n => cases h

theorem infix_of_firstAfter? {message marker v : Text} (h : firstAfter? message marker = some v) :
    v <:+: message := by
  obtain ⟨rest, hrest, hv⟩ := Option.bind_eq_some_iff.1 h
  exact (Text.prefix_of_beforeFirst? hv).isInfix.trans (Text.suffix_of_afterFirst? hrest).isInfix

theorem infix_of_lastAfter? {message marker v : Text} (h : lastAfter? message marker = some v) :
    v <:+: message := by
  obtain ⟨rest, hrest, hv⟩ := Option.bind_eq_some_iff.1 h
  exact (Text.prefix_of_beforeFirst? hv).isInfix.trans (Text.suffix_of_afterLast? hrest).isInfix

theorem infix_of_assignment? {message : Text} {a : Assignment} (h : assignment? message = some a) :
    a.source <:+: message ∧ a.target <:+: message := by
  simp only [assignment?, Option.bind_eq_bind, Option.bind_eq_some_iff] at h
  obtain ⟨rest, hrest, ⟨source, behind⟩, hsource, last, hlast, heq⟩ := h
  cases heq
  have hdrop : rest <:+ message := (Text.suffix_of_afterFirst? hrest).trans (List.drop_suffix _ _)
  have hbehind : behind <:+ rest := ⟨_, Text.append_of_splitFirst? hsource⟩
  constructor
  · exact (Text.prefix_of_splitFirst? hsource).isInfix.trans hdrop.isInfix
  · exact (List.takeWhile_prefix _).isInfix.trans
      (((Text.suffix_of_afterFirst? hlast).trans hbehind).trans hdrop).isInfix

end Message

/-! ## Properties of object types -/

namespace PropertyMap

theorem mem_of_mem_insert {property type : Text} {l : List (Text × Text)} {x : Text × Text}
    (h : x ∈ PropertyList.insert property type l) : x = (property, type) ∨ x ∈ l := by
  induction l with
  | nil => simpa [PropertyList.insert] using h
  | cons y l ih =>
    obtain ⟨p, t⟩ := y
    rw [PropertyList.insert] at h
    by_cases hp : p = property
    · rw [if_pos hp, hp, List.mem_cons] at h
      exact h.imp_right (List.mem_cons_of_mem _)
    · rw [if_neg hp] at h
      rcases List.mem_cons.1 h with rfl | h
      · exact Or.inr List.mem_cons_self
      · exact (ih h).imp_right (List.mem_cons_of_mem _)

theorem mem_of_mem_foldl_insert {l : List (Text × Text)} {m : PropertyMap} {x : Text × Text}
    (h : x ∈ (l.foldl (fun m y => m.insert y.1 y.2) m).toList) : x ∈ m.toList ∨ x ∈ l := by
  induction l generalizing m with
  | nil => exact Or.inl h
  | cons y l ih =>
    rcases ih h with hx | hx
    · rcases mem_of_mem_insert hx with rfl | hx
      · exact Or.inr List.mem_cons_self
      · exact Or.inl hx
    · exact Or.inr (List.mem_cons_of_mem _ hx)

/-- A map holds only pairs that were inserted. -/
theorem mem_of_mem_ofList {l : List (Text × Text)} {x : Text × Text}
    (h : x ∈ (ofList l).toList) : x ∈ l := by
  rcases mem_of_mem_foldl_insert h with hx | hx
  · cases hx
  · exact hx

theorem infix_of_clause? {clause : Text} {x : Text × Text} (h : clause? clause = some x) :
    x.1 <:+: clause ∧ x.2 <:+: clause := by
  obtain ⟨⟨property, type⟩, hsplit, rfl⟩ := Option.map_eq_some_iff.1 h
  have htrim := Text.trim_infix clause
  constructor
  · exact (Text.trim_infix _).trans ((Text.prefix_of_splitFirst? hsplit).isInfix.trans htrim)
  · have hsuffix : type <:+ Text.trim clause := ⟨_, Text.append_of_splitFirst? hsplit⟩
    exact (Text.trim_infix _).trans (hsuffix.isInfix.trans htrim)

/-- The properties of an object type and their types stand in its text. -/
theorem infix_of_mem_ofLiteral {literal : Text} {x : Text × Text}
    (h : x ∈ (ofLiteral literal).toList) : x.1 <:+: literal ∧ x.2 <:+: literal := by
  rw [ofLiteral] at h
  split at h
  · obtain ⟨clause, hclause, hx⟩ := List.mem_filterMap.1 (mem_of_mem_ofList h)
    have hinner : ((Text.trim literal).drop 1).dropLast <:+: literal :=
      (List.dropLast_prefix _).isInfix.trans
        ((List.drop_suffix _ _).isInfix.trans (Text.trim_infix literal))
    have hinfix := (Text.infix_of_mem_splitOn hclause).trans hinner
    exact ⟨(infix_of_clause? hx).1.trans hinfix, (infix_of_clause? hx).2.trans hinfix⟩
  · cases h

theorem mem_of_mem_differences {provided expected : PropertyMap} {x : PropertyDifference}
    (h : x ∈ provided.differences expected) :
    (x.property, x.provided) ∈ provided.toList ∧ (x.property, x.expected) ∈ expected.toList := by
  obtain ⟨property, -, hx⟩ := List.mem_filterMap.1 h
  split at hx
  · next p e hp he =>
    split at hx
    · cases hx
    · cases hx
      exact ⟨Text.mem_of_lookup hp, Text.mem_of_lookup he⟩
  · cases hx

end PropertyMap

/-- What a message reports as different stands in it. -/
theorem Message.infix_of_mem_reported {message : Text} {x : PropertyDifference}
    (h : x ∈ Message.reported message) :
    x.property <:+: message ∧ x.provided <:+: message ∧ x.expected <:+: message := by
  rw [reported] at h
  cases hdifference : argumentDifference? message with
  | none =>
    rw [hdifference] at h
    cases h
  | some difference =>
    rw [hdifference] at h
    simp only [argumentDifference?, Option.bind_eq_bind, Option.bind_eq_some_iff] at hdifference
    obtain ⟨provided, hprovided, expected, hexpected, heq⟩ := hdifference
    cases heq
    obtain ⟨hp, he⟩ := PropertyMap.mem_of_mem_differences h
    have hp := PropertyMap.infix_of_mem_ofLiteral hp
    have he := PropertyMap.infix_of_mem_ofLiteral he
    exact ⟨hp.1.trans (infix_of_firstAfter? hprovided), hp.2.trans (infix_of_firstAfter? hprovided),
      he.2.trans (infix_of_firstAfter? hexpected)⟩

/-! ## Readings -/

namespace Reading

/-- A reading that finds its subject as it is in the message, or as the raw text of a token. -/
def Verbatim (r : Reading) : Prop :=
  ∀ d tokens v, r d tokens = some v → v <:+: d.message ∨ ∃ token ∈ tokens, v = token.raw

theorem verbatim_quoted (index : Nat) : (quoted index).Verbatim := by
  intro d tokens v h
  exact Or.inl (Message.infix_of_part? h)

theorem verbatim_underError : underError.Verbatim := by
  intro d tokens v h
  obtain ⟨token, hfind, rfl⟩ := Option.map_eq_some_iff.1 h
  rw [Source.tokenUnder?] at hfind
  split at hfind
  · cases hfind
  · exact Or.inr ⟨token, List.mem_of_find?_eq_some hfind, rfl⟩

theorem Verbatim.orElse {first second : Reading} (h : first.Verbatim) (h' : second.Verbatim) :
    (orElse first second).Verbatim := by
  intro d tokens v hv
  rw [Reading.orElse] at hv
  split at hv
  · next hfirst =>
    cases hv
    exact h d tokens _ hfirst
  · exact h' d tokens v hv

theorem verbatim_source : source.Verbatim := by
  intro d tokens v h
  obtain ⟨a, ha, rfl⟩ := Option.map_eq_some_iff.1 h
  exact Or.inl (Message.infix_of_assignment? ha).1

theorem verbatim_target : target.Verbatim := by
  intro d tokens v h
  obtain ⟨a, ha, rfl⟩ := Option.map_eq_some_iff.1 h
  exact Or.inl (Message.infix_of_assignment? ha).2

theorem verbatim_lastType : lastType.Verbatim := by
  intro d tokens v h
  exact Or.inl (Message.infix_of_lastAfter? h)

theorem verbatim_possiblyUndefined : possiblyUndefined.Verbatim := by
  intro d tokens v h
  rw [possiblyUndefined] at h
  split at h
  · exact verbatim_underError d tokens v h
  · exact verbatim_quoted 1 d tokens v h

end Reading

/-- Every reading of every problem finds its subject as it stands. -/
theorem Problem.verbatim_subjects (p : Problem) :
    ∀ subject ∈ p.subjects, subject.reading.Verbatim := by
  cases p <;>
    simp [subjects, Reading.verbatim_quoted, Reading.verbatim_underError, Reading.verbatim_source,
      Reading.verbatim_target, Reading.verbatim_lastType, Reading.verbatim_possiblyUndefined,
      Reading.Verbatim.orElse]

/-! ## Sentences -/

/-- The templates of a problem, and the nouns for its missing subjects. -/
def Problem.texts (p : Problem) : List Text :=
  p.entry.templates ++ p.entry.fallbackTemplates ++ p.subjects.map (·.noun)

/-- Where the parts of a suggestion stand before it is put together. -/
inductive Origin (p : Problem) (d : Diagnostic) (tokens : List Token) : Text → Prop
  | catalog {t : Text} : t ∈ p.texts → Origin p d tokens t
  | message {t : Text} : t <:+: d.message → Origin p d tokens t
  | token {token : Token} : token ∈ tokens → Origin p d tokens token.raw

section

variable {p : Problem} {d : Diagnostic} {tokens : List Token}

theorem Origin.template {t : Text} (h : t ∈ p.entry.templates) : Origin p d tokens t :=
  .catalog (List.mem_append_left _ (List.mem_append_left _ h))

theorem Origin.read {subject : Subject} (h : subject ∈ p.subjects) :
    Origin p d tokens (subject.read d tokens).2 := by
  rw [Subject.read]
  cases hread : subject.reading d tokens with
  | none => exact .catalog (List.mem_append_right _ (List.mem_map_of_mem h))
  | some v =>
    rcases p.verbatim_subjects subject h d tokens v hread with hv | ⟨token, htoken, rfl⟩
    · exact .message hv
    · exact .token htoken

theorem Origin.difference {x : PropertyDifference} (h : x ∈ Message.reported d.message)
    {y : Text × Text} (hy : y ∈ Strategy.differenceSubjects x) : Origin p d tokens y.2 := by
  obtain ⟨hproperty, hprovided, hexpected⟩ := Message.infix_of_mem_reported h
  simp only [Strategy.differenceSubjects, List.mem_cons, List.not_mem_nil, or_false] at hy
  rcases hy with rfl | rfl | rfl
  · exact .message hexpected
  · exact .message hproperty
  · exact .message hprovided

/-- The templates of an outline are those of its problem, and its subjects stand in the input or in
the catalog as they are. -/
theorem Problem.origin_sentences {o : Outline} (h : p.outline? d tokens = some o) {x : Sentence}
    (hx : x ∈ o.sentences) :
    Origin p d tokens x.template ∧ ∀ y ∈ x.subjects, Origin p d tokens y.2 := by
  rcases outline?_cases h with ⟨-, rfl⟩ | ⟨-, rfl⟩ | ⟨-, rfl⟩
  · rcases Outline.mem_sentences_ofDifferences hx with ⟨hmem, z, hz, hsubjects⟩ | ⟨hhelp, hsubjects⟩
    · rw [hsubjects]
      exact ⟨.template (List.mem_append_left _ hmem), fun y hy => .difference hz hy⟩
    · rw [hsubjects]
      exact ⟨.template (List.mem_append_right _ (by simp [hhelp])), by simp⟩
  · obtain ⟨hmem, hsubjects⟩ := Outline.mem_sentences_ofFallback hx
    rw [hsubjects]
    exact ⟨.catalog (List.mem_append_left _ (List.mem_append_right _ hmem)), by simp⟩
  · obtain ⟨hmem, hsubjects⟩ := Outline.mem_sentences_ofEntry hx
    refine ⟨.template hmem, ?_⟩
    intro y hy
    rw [hsubjects] at hy
    obtain ⟨subject, hsubject, rfl⟩ := List.mem_map.1 hy
    exact .read hsubject

end

end DiagnosticHints
