import DiagnosticHints.Proofs.DifferenceOrder
import DiagnosticHints.Proofs.RenderedProperties
import DiagnosticHints.Proofs.Wording

/-!
# Properties that differ

The properties that differ are settled by what two maps hold, not by the order in which it was put
in. So a message about an argument gets the same lines however its two object types list their
properties.
-/

namespace DiagnosticHints

/-- Properties that are distinct can be put in in any order. -/
theorem PropertyMap.get?_ofList_perm {pairs shuffled : List (Text × Text)}
    (h : (pairs.map Prod.fst).Nodup) (hperm : shuffled.Perm pairs) (property : Text) :
    (ofList shuffled).get? property = (ofList pairs).get? property := by
  have hshuffled : (shuffled.map Prod.fst).Nodup := (hperm.map Prod.fst).nodup_iff.2 h
  refine get?_of_perm ?_ property
  rwa [toList_ofList h, toList_ofList hshuffled]

/-! ## The wording of a message about an argument -/

namespace Text

section

variable {q : Char} {m w x y : Text}

/-- A text is cut at its first quote in one way only. -/
theorem append_cons_inj (hm : q ∉ m) (hw : q ∉ w) (h : m ++ q :: x = w ++ q :: y) :
    m = w ∧ x = y := by
  have hsplit := splitFirst?_char hm x
  rw [h, splitFirst?_char hw, Option.some.injEq, Prod.mk.injEq] at hsplit
  exact ⟨hsplit.1.symm, hsplit.2.symm⟩

theorem quoted_prefix_iff (hm : q ∉ m) (hw : q ∉ w) (rest : Text) :
    m ++ [q] <+: w ++ q :: rest ↔ m = w := by
  constructor
  · rintro ⟨behind, h⟩
    rw [List.append_assoc, List.singleton_append] at h
    exact (append_cons_inj hm hw h).1
  · rintro rfl
    exact ⟨rest, by rw [List.append_assoc, List.singleton_append]⟩

theorem splitFirst?_cons_of_not_front {marker t : Text} {c : Char} (h : ¬ marker <+: c :: t) :
    splitFirst? marker (c :: t) =
      (splitFirst? marker t).map fun (before, after) => (c :: before, after) := by
  rw [splitFirst?, if_neg (by rwa [List.isPrefixOf_iff_prefix])]

theorem splitFirst?_append_self (marker rest : Text) :
    splitFirst? marker (marker ++ rest) = some ([], rest) := by
  cases marker with
  | nil => cases rest <;> rfl
  | cons c m => simp [splitFirst?, List.isPrefixOf_iff_prefix]

/-- A marker that ends with its only quote is found right in front of a quote. -/
theorem splitFirst?_quoted (hm : q ∉ m) (hw : q ∉ w) (rest : Text) :
    splitFirst? (m ++ [q]) (w ++ (m ++ q :: rest)) = some (w, rest) := by
  induction w with
  | nil =>
    have hfront := splitFirst?_append_self (m ++ [q]) rest
    rwa [List.append_assoc] at hfront
  | cons c w ih =>
    have hnot : ¬ m ++ [q] <+: c :: (w ++ (m ++ q :: rest)) := by
      have hmem : q ∉ c :: w ++ m := by
        rw [List.mem_append, not_or]
        exact ⟨hw, hm⟩
      have hiff := quoted_prefix_iff hm hmem rest
      rw [List.append_assoc, List.cons_append] at hiff
      intro hfront
      have hlen := congrArg List.length (hiff.1 hfront)
      rw [List.length_append, List.length_cons] at hlen
      omega
    rw [List.mem_cons, not_or] at hw
    rw [List.cons_append, splitFirst?_cons_of_not_front hnot, ih hw.2]
    rfl

/-- A text in front of a quote is passed over when it does not end like the marker. -/
theorem splitFirst?_quoted_of_not_suffix (hm : q ∉ m) (hw : q ∉ w) (hnot : ¬ m <:+ w)
    (rest : Text) :
    splitFirst? (m ++ [q]) (w ++ q :: rest) =
      (splitFirst? (m ++ [q]) rest).map fun (before, after) => (w ++ q :: before, after) := by
  induction w with
  | nil =>
    have hfront : ¬ m ++ [q] <+: q :: rest := fun hfront =>
      hnot ((quoted_prefix_iff hm hw rest).1 hfront ▸ List.suffix_rfl)
    exact splitFirst?_cons_of_not_front hfront
  | cons c w ih =>
    have hfront : ¬ m ++ [q] <+: c :: w ++ q :: rest := fun hfront =>
      hnot ((quoted_prefix_iff hm hw rest).1 hfront ▸ List.suffix_rfl)
    rw [List.mem_cons, not_or] at hw
    rw [List.cons_append] at hfront ⊢
    rw [splitFirst?_cons_of_not_front hfront,
      ih hw.2 fun hsuffix => hnot (hsuffix.trans (List.suffix_cons c w)), Option.map_map]
    rfl

end

end Text

open PropertyMap (Spellable)

namespace Message

/-! ## Messages about an argument -/

/-- Properties that an object type can list between the apostrophes of a message. -/
structure Listable (pairs : List (Text × Text)) : Prop where
  nodup : (pairs.map Prod.fst).Nodup
  spellable : ∀ p ∈ pairs, Spellable p
  unquoted : ∀ p ∈ pairs, quote ∉ p.1 ∧ quote ∉ p.2

instance (pairs : List (Text × Text)) : Decidable (Listable pairs) :=
  decidable_of_iff ((pairs.map Prod.fst).Nodup ∧ (∀ p ∈ pairs, Spellable p) ∧
    ∀ p ∈ pairs, quote ∉ p.1 ∧ quote ∉ p.2) ⟨fun h => ⟨h.1, h.2.1, h.2.2⟩, fun h => ⟨h.1, h.2, h.3⟩⟩

/-- An object type as a checker lists its properties, with a semicolon behind each of them. -/
def objectType (pairs : List (Text × Text)) : Text :=
  PropertyMap.braced (' ' :: pairs.flatMap fun p => PropertyMap.spellClause p ++ [';', ' '])

/-- The message that an argument of one object type does not fit a parameter of another one. -/
def argumentMessage (provided expected : List (Text × Text)) : Text :=
  spell [("Argument of type ", objectType provided),
    (" is not assignable to parameter of type ", objectType expected)] ['.']

section

variable {pairs provided expected : List (Text × Text)}

theorem ofLiteral_objectType (h : ∀ p ∈ pairs, Spellable p) :
    PropertyMap.ofLiteral (objectType pairs) = .ofList pairs := by
  have hclauses : PropertyMap.Clauses
      (' ' :: pairs.flatMap fun p => PropertyMap.spellClause p ++ [';', ' ']) pairs := by
    induction pairs with
    | nil => exact .blank Text.blank_space
    | cons p pairs ih =>
      rw [List.forall_mem_cons] at h
      have hcons := PropertyMap.Clauses.cons h.1 Text.blank_space Text.blank_nil (ih h.2)
      simpa using hcons
  rw [objectType, PropertyMap.ofLiteral_braced, hclauses.filterMap_clause?]

theorem quote_not_mem_objectType (h : ∀ p ∈ pairs, quote ∉ p.1 ∧ quote ∉ p.2) :
    quote ∉ objectType pairs := by
  have hclause : ∀ p ∈ pairs, quote ∉ PropertyMap.spellClause p ++ [';', ' '] := by
    intro p hp hmem
    obtain ⟨hname, htype⟩ := h p hp
    simp only [PropertyMap.spellClause, List.mem_append, List.mem_cons, List.not_mem_nil, or_false,
      hname, htype, false_or] at hmem
    revert hmem
    decide
  intro hmem
  rw [objectType, PropertyMap.braced, List.mem_cons, List.cons_append, List.mem_cons,
    List.mem_append, List.mem_flatMap, List.mem_singleton] at hmem
  rcases hmem with hmem | hmem | ⟨p, hp, hmem⟩ | hmem
  · cases hmem
  · cases hmem
  · exact hclause p hp hmem
  · cases hmem

theorem firstAfter?_of_splitFirst? {message marker before value rest : Text}
    (h : Text.splitFirst? marker message = some (before, value ++ quote :: rest))
    (hvalue : quote ∉ value) : firstAfter? message marker = some value := by
  rw [firstAfter?, Text.afterFirst?, h, Option.map_some, Option.bind_some,
    beforeFirst?_quote hvalue]

/-- An object type ends with a brace, so that no words before a type end like it. -/
theorem not_suffix_objectType {words : Text} (h : words.getLast? = some ' ')
    (pairs : List (Text × Text)) : ¬ words <:+ objectType pairs := by
  rintro ⟨before, heq⟩
  have hbrace := congrArg List.getLast? heq
  rw [List.getLast?_append, h, Option.some_or, objectType, PropertyMap.braced,
    ← List.cons_append, List.getLast?_concat] at hbrace
  exact absurd (Option.some.inj hbrace) (by decide)

theorem splitFirst?_argumentMark (provided expected : List (Text × Text)) :
    Text.splitFirst? argumentMark (argumentMessage provided expected) =
      some ([], objectType provided ++ quote ::
        spell [(" is not assignable to parameter of type ", objectType expected)] ['.']) :=
  Text.splitFirst?_quoted (m := "Argument of type ".toList) (by decide) List.not_mem_nil _

/-- The second mark is not found in the first type, whatever words this type holds. -/
theorem splitFirst?_parameterMark (h : quote ∉ objectType provided)
    (expected : List (Text × Text)) :
    Text.splitFirst? parameterMark (argumentMessage provided expected) =
      some ("Argument of type ".toList ++ quote :: (objectType provided ++ quote ::
        " is not assignable ".toList), objectType expected ++ quote :: ['.']) := by
  have hmark : quote ∉ "to parameter of type ".toList := by decide
  have hlast : ¬ "to parameter of type ".toList <:+ objectType provided :=
    not_suffix_objectType rfl provided
  have hwords : " is not assignable to parameter of type ".toList =
      " is not assignable ".toList ++ "to parameter of type ".toList := by decide
  have hparameterMark : parameterMark = "to parameter of type ".toList ++ [quote] := by decide
  rw [argumentMessage, hparameterMark, spell, spell, spell, hwords, List.append_assoc]
  rw [Text.splitFirst?_quoted_of_not_suffix hmark (by decide) (by decide),
    Text.splitFirst?_quoted_of_not_suffix hmark h hlast,
    Text.splitFirst?_quoted hmark (by decide)]
  rfl

/-- Both types are found. -/
theorem argumentDifference?_argumentMessage
    (hp : ∀ p ∈ provided, quote ∉ p.1 ∧ quote ∉ p.2)
    (he : ∀ p ∈ expected, quote ∉ p.1 ∧ quote ∉ p.2) :
    argumentDifference? (argumentMessage provided expected) =
      some ⟨objectType provided, objectType expected,
        (PropertyMap.ofLiteral (objectType provided)).differences
          (PropertyMap.ofLiteral (objectType expected))⟩ := by
  have hprovided := quote_not_mem_objectType hp
  have hexpected := quote_not_mem_objectType he
  rw [argumentDifference?,
    firstAfter?_of_splitFirst? (splitFirst?_argumentMark provided expected) hprovided,
    firstAfter?_of_splitFirst? (splitFirst?_parameterMark hprovided expected) hexpected]
  rfl

end

theorem Listable.of_perm {pairs shuffled : List (Text × Text)} (h : Listable pairs)
    (hperm : shuffled.Perm pairs) : Listable shuffled where
  nodup := (hperm.map Prod.fst).nodup_iff.2 h.nodup
  spellable p hp := h.spellable p (hperm.mem_iff.1 hp)
  unquoted p hp := h.unquoted p (hperm.mem_iff.1 hp)

/-- The properties that such a message reports are those that differ. -/
theorem reported_argumentMessage {provided expected : List (Text × Text)} (hp : Listable provided)
    (he : Listable expected) :
    reported (argumentMessage provided expected) =
      (PropertyMap.ofList provided).differences (.ofList expected) := by
  rw [reported, argumentDifference?_argumentMessage hp.unquoted he.unquoted,
    ofLiteral_objectType hp.spellable, ofLiteral_objectType he.spellable]
  rfl

end Message

/-! ## The suggestion -/

/-- The line about a property that differs. -/
def PropertyDifference.line (x : PropertyDifference) : Text :=
  "Property `".toList ++ (x.property ++ ("` is provided as `".toList ++ (x.provided ++
    ("` but expects `".toList ++ (x.expected ++ "`.".toList)))))

/-- The help about arguments that do not fit. -/
def argumentHelp : Text :=
  "Check the function arguments to ensure they match the expected parameter types."

/-- The template of a line about a property that differs, cut at its holes. -/
def lineTemplate : Text :=
  "Property `".toList ++ '\x7b' :: ("property".toList ++ '\x7d' ::
    ("` is provided as `".toList ++ '\x7b' :: ("provided".toList ++ '\x7d' ::
      ("` but expects `".toList ++ '\x7b' :: ("expected".toList ++ '\x7d' ::
        "`.".toList)))))

theorem suggestions_inlineTypeMismatch :
    Problem.inlineTypeMismatch.entry.suggestions = [lineTemplate] := by
  rfl

theorem filled_line {value : Text → Option Text} {x : PropertyDifference}
    (hproperty : value "property".toList = some x.property)
    (hprovided : value "provided".toList = some x.provided)
    (hexpected : value "expected".toList = some x.expected) :
    Template.Filled value lineTemplate x.line := by
  unfold lineTemplate PropertyDifference.line
  refine .append_left (by decide) (.hole (by decide) (List.all_eq_true.1 rfl) hproperty ?_)
  refine .append_left (by decide) (.hole (by decide) (List.all_eq_true.1 rfl) hprovided ?_)
  refine .append_left (by decide) (.hole (by decide) (List.all_eq_true.1 rfl) hexpected ?_)
  exact .words (by decide)

theorem fillAll_differenceSubjects (x : PropertyDifference) :
    Problem.inlineTypeMismatch.entry.fillAll (Strategy.differenceSubjects x) .plain
      Problem.inlineTypeMismatch.entry.suggestions = [x.line] := by
  rw [Entry.fillAll, suggestions_inlineTypeMismatch, List.map_singleton, Entry.fill_plain,
    Template.fill_eq_of_filled (filled_line rfl rfl rfl)]

theorem fillHelp_inlineTypeMismatch :
    Problem.inlineTypeMismatch.entry.fillHelp [] .plain Problem.inlineTypeMismatch.entry.help =
      some argumentHelp := by
  have hfill : Template.fill (fun key => ([] : Subjects).lookup key) argumentHelp = argumentHelp :=
    Template.fill_eq_of_filled (.words (by decide +kernel))
  rw [← Entry.fill_plain Problem.inlineTypeMismatch.entry] at hfill
  exact congrArg some hfill

namespace Message

/-- A diagnostic with a message about an argument. -/
def argumentDiagnostic (file : Text) (line column : Int) (provided expected : List (Text × Text)) :
    Diagnostic :=
  ⟨file, line, column, .ofCode "TS2345", argumentMessage provided expected⟩

section

variable {provided expected : List (Text × Text)}

theorem suggest?_argumentDiagnostic (hp : Listable provided) (he : Listable expected)
    (file : Text) (line column : Int) (tokens : List Token) :
    (argumentDiagnostic file line column provided expected).suggest? tokens .plain =
      some ⟨((PropertyMap.ofList provided).differences (.ofList expected)).map (·.line),
        some argumentHelp⟩ := by
  have hkind : Kind.ofCode "TS2345".toList = .known .inlineTypeMismatch := by
    rw [Kind.ofCode, show Problem.ofCode? "TS2345".toList = some .inlineTypeMismatch from
      Problem.ofCode?_code .inlineTypeMismatch]
  have hlines : (((PropertyMap.ofList provided).differences (.ofList expected)).flatMap fun x =>
      Problem.inlineTypeMismatch.entry.fillAll (Strategy.differenceSubjects x) .plain
        Problem.inlineTypeMismatch.entry.suggestions) =
      ((PropertyMap.ofList provided).differences (.ofList expected)).map (·.line) := by
    simp only [fillAll_differenceSubjects]
    exact List.map_eq_flatMap.symm
  rw [← hlines, ← reported_argumentMessage hp he, ← fillHelp_inlineTypeMismatch]
  rw [Diagnostic.suggest?, argumentDiagnostic, hkind]
  rfl

/-- **Exactly the properties that differ are reported.**  A message that an argument of one object
type does not fit a parameter of another one gets help and a line for each property that both have
with different types, in the order of the UTF-16 units of the properties; and however the two types
list their properties, the suggestion is the same. -/
theorem reports_differing_properties (hp : Listable provided) (he : Listable expected)
    (file : Text) (line column : Int) (tokens : List Token) :
    (∃ differing : List PropertyDifference,
      (argumentDiagnostic file line column provided expected).suggest? tokens .plain =
        some ⟨differing.map (·.line), some argumentHelp⟩ ∧
      PropertyMap.Ascending differing ∧
      ∀ x : PropertyDifference, x ∈ differing ↔ (x.property, x.provided) ∈ provided ∧
        (x.property, x.expected) ∈ expected ∧ x.provided ≠ x.expected) ∧
    ∀ provided' expected', provided'.Perm provided → expected'.Perm expected →
      (argumentDiagnostic file line column provided' expected').suggest? tokens .plain =
        (argumentDiagnostic file line column provided expected).suggest? tokens .plain := by
  constructor
  · refine ⟨_, suggest?_argumentDiagnostic hp he file line column tokens,
      PropertyMap.ascending_differences, fun x => ?_⟩
    rw [PropertyMap.mem_differences, PropertyMap.get?_eq_some_iff, PropertyMap.get?_eq_some_iff,
      PropertyMap.toList_ofList hp.nodup, PropertyMap.toList_ofList he.nodup]
  · intro provided' expected' hpermp hperme
    have hsame := PropertyMap.differences_congr (PropertyMap.get?_ofList_perm hp.nodup hpermp)
      (PropertyMap.get?_ofList_perm he.nodup hperme)
    rw [suggest?_argumentDiagnostic (hp.of_perm hpermp) (he.of_perm hperme),
      suggest?_argumentDiagnostic hp he, hsame]

end

/-- Properties with holes, braces and the words of the message in their names and types. -/
def markedProvided : List (Text × Text) :=
  [("\x7bexpected\x7d", "to parameter of type"), ("b", "\x7b x: \x7bprovided\x7d \x7d"), ([], "z")]

/-- The types that are expected of some of these properties. -/
def markedExpected : List (Text × Text) :=
  [("b", "Argument of type"), ([], "z"), ("\x7bexpected\x7d", []), ("c", "d")]

theorem reports_differing_properties_marked :
    (Listable markedProvided ∧ Listable markedExpected) ∧
    (∃ differing : List PropertyDifference,
      (argumentDiagnostic "a.ts" 1 1 markedProvided markedExpected).suggest? [] .plain =
        some ⟨differing.map (·.line), some argumentHelp⟩ ∧
      PropertyMap.Ascending differing ∧
      ∀ x : PropertyDifference, x ∈ differing ↔ (x.property, x.provided) ∈ markedProvided ∧
        (x.property, x.expected) ∈ markedExpected ∧ x.provided ≠ x.expected) ∧
    ∀ provided' expected', provided'.Perm markedProvided → expected'.Perm markedExpected →
      (argumentDiagnostic "a.ts" 1 1 provided' expected').suggest? [] .plain =
        (argumentDiagnostic "a.ts" 1 1 markedProvided markedExpected).suggest? [] .plain :=
  have hp : Listable markedProvided := by decide +kernel
  have he : Listable markedExpected := by decide +kernel
  ⟨⟨hp, he⟩, reports_differing_properties hp he "a.ts" 1 1 []⟩

end Message

end DiagnosticHints
