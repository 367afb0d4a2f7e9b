import DiagnosticHints.Proofs.LineGrammar
import DiagnosticHints.Proofs.TemplateFilling
import Mathlib.Data.List.Basic

/-!
# From the checker's wording to the suggestion

The wordings in which a checker quotes what its messages are about, and the way from such a line
of output back to the values: the line is read, each value is found again in the message, and the
templates are filled with it. A value may look like a mark of the line, like the words around a
value or like a hole of a template; all it must not hold is an apostrophe, and no blank may stand
at its end.
-/

namespace DiagnosticHints

namespace Message

/-! ## Spelled messages -/

/-- Values between apostrophes, each behind its words, and an ending behind the last one. -/
def spell : List (Text × Text) → Text → Text
  | [], ending => ending
  | (words, value) :: quotes, ending =>
    words ++ quote :: (value ++ quote :: spell quotes ending)

theorem spell_append (quotes : List (Text × Text)) (ending t : Text) :
    spell quotes (ending ++ t) = spell quotes ending ++ t := by
  induction quotes with
  | nil => rfl
  | cons q quotes ih => simp [spell, ih]

/-- The words and the values in turn. -/
def spelledParts (quotes : List (Text × Text)) : List Text :=
  quotes.flatMap fun q => [q.1, q.2]

/-- Words and values without apostrophes are the first parts of the message, whatever its ending
may quote. -/
theorem part?_spell {quotes : List (Text × Text)} (ending : Text)
    (h : ∀ q ∈ quotes, quote ∉ q.1 ∧ quote ∉ q.2) {n : Nat} (hn : n < 2 * quotes.length) :
    part? (spell quotes ending) n = (spelledParts quotes)[n]? := by
  change ((spell quotes ending).splitOn quote)[n]? = (spelledParts quotes)[n]?
  induction quotes generalizing n with
  | nil => simp at hn
  | cons q quotes ih =>
    obtain ⟨words, value⟩ := q
    obtain ⟨⟨hwords, hvalue⟩, hrest⟩ := List.forall_mem_cons.1 h
    have hsplit : (spell ((words, value) :: quotes) ending).splitOn quote =
        words :: value :: (spell quotes ending).splitOn quote := by
      rw [spell, List.splitOn_append_cons_self_of_not_mem hwords,
        List.splitOn_append_cons_self_of_not_mem hvalue]
    rw [hsplit]
    match n with
    | 0 => rfl
    | 1 => rfl
    | n + 2 =>
      rw [List.length_cons] at hn
      exact ih hrest (by omega)

theorem beforeFirst?_quote {value : Text} (h : quote ∉ value) (rest : Text) :
    Text.beforeFirst? [quote] (value ++ quote :: rest) = some value := by
  rw [Text.beforeFirst?, Text.splitFirst?_char h]
  rfl

/-- The two types of an assignment are found when the first one is quoted behind the word that
starts the message. -/
theorem assignment?_spell {source words target : Text} (hsource : quote ∉ source)
    (hwords : quote ∉ words) (htarget : quote ∉ target) (ending : Text) :
    assignment? (spell [("Type ", source), (words, target)] ending) =
      some ⟨source, target⟩ := by
  have hmark : typeMark = 'y' :: ['p', 'e', ' ', quote] := rfl
  have hdrop : (spell [("Type ", source), (words, target)] ending).drop 1 =
      [] ++ (typeMark ++ (source ++ quote :: (words ++ quote :: (target ++ quote :: ending)))) :=
    rfl
  have hne : ∀ c ∈ target, (c != quote) = true := fun c hc =>
    bne_iff_ne.2 fun heq => htarget (by rwa [← heq])
  have htake : (target ++ quote :: ending).takeWhile (· != quote) = target := by
    rw [List.takeWhile_append_of_pos hne, List.takeWhile_cons]
    simp
  rw [assignment?, hdrop, hmark, Text.afterFirst?,
    Text.splitFirst?_append (by decide) (by simp)]
  simp only [Option.map_some, Option.bind_eq_bind, Option.bind_some, Text.afterFirst?,
    Text.splitFirst?_char hsource, Text.splitFirst?_char hwords, htake]
  rfl

/-- A value that ends in no blank closes without making up a further mark. -/
theorem lastAfter?_typeMark {value : Text} (hvalue : quote ∉ value)
    (hblank : value.getLast? ≠ some ' ') (before : Text) :
    lastAfter? (before ++ (Reading.typeMark ++ (value ++ [quote, '.']))) Reading.typeMark =
      some value := by
  have hmark : Reading.typeMark = 't' :: ['y', 'p', 'e', ' ', quote] := rfl
  have hclose : ¬ [' ', quote] <:+: value ++ [quote, '.'] := by
    rintro ⟨s, t, hst⟩
    have heq : value ++ quote :: ['.'] = (s ++ [' ']) ++ quote :: t := by simp [← hst]
    rw [List.append_cons_inj_of_notMem hvalue (by decide)] at heq
    exact hblank (by simp [heq.1])
  have hlast : ¬ 't' :: ['y', 'p', 'e', ' ', quote] <:+:
      ['y', 'p', 'e', ' ', quote] ++ (value ++ [quote, '.']) := by
    intro h
    simp only [List.cons_append, List.nil_append, List.infix_cons_iff, List.cons_prefix_cons] at h
    refine hclose (List.IsInfix.trans (List.IsSuffix.isInfix ⟨['t', 'y', 'p', 'e'], rfl⟩) ?_)
    simpa [quote] using h
  rw [lastAfter?, hmark, Text.afterLast?_append hlast, Option.bind_some,
    beforeFirst?_quote hvalue]

end Message

/-! ## Wordings -/

/-- The wordings that quote what a message is about, each with what it quotes. The reason why a
conversion may be a mistake is any text. -/
inductive Wording where
  | notAssignable (source target : Text)
  | conversion (source target reason : Text)
  | missingProperty (property source target : Text)
  | incorrectImplementation (className interfaceName property : Text)
  | unlikeBase (property implType baseType propertyImplType propertyBaseType : Text)
  | unknownProperty (property type : Text)
  | misspelledProperty (property type suggested : Text)
  | readonlyProperty (property : Text)
  | redeclared (name : Text)
  | unknownName (name : Text)
  | unknownModule (name : Text)
  | notAnIndex (type : Text)
  | implicitAny (name : Text)
  | inferableAny (name : Text)
  | possiblyUndefined (name : Text)
  | objectPossiblyUndefined
  deriving DecidableEq, Repr

namespace Wording

open LineParts (isCoordinate_ofNat ofDigitChars_ofNat)

/-- The code that a line gives with a wording. -/
def code : Wording → Text
  | notAssignable .. => "TS2322"
  | conversion .. => "TS2352"
  | missingProperty .. => "TS2741"
  | incorrectImplementation .. => "TS2420"
  | unlikeBase .. => "TS2416"
  | unknownProperty .. => "TS2339"
  | misspelledProperty .. => "TS2551"
  | readonlyProperty .. => "TS2540"
  | redeclared .. => "TS2451"
  | unknownName .. => "TS2304"
  | unknownModule .. => "TS2307"
  | notAnIndex .. => "TS2538"
  | implicitAny .. => "TS7006"
  | inferableAny .. => "TS7044"
  | possiblyUndefined .. => "TS18048"
  | objectPossiblyUndefined => "TS2532"

/-- The problem that a wording is about. -/
def problem : Wording → Problem
  | notAssignable .. => .typeMismatch
  | conversion .. => .directCastPotentiallyMistaken
  | missingProperty .. => .propertyMissingInType
  | incorrectImplementation .. => .incorrectInterfaceImplementation
  | unlikeBase .. => .propertyNotAssignableToBase
  | unknownProperty .. => .propertyDoesNotExist
  | misspelledProperty .. => .typoPropertyOnType
  | readonlyProperty .. => .readonlyPropertyAssignment
  | redeclared .. => .invalidShadowInScope
  | unknownName .. => .cannotFindIdentifier
  | unknownModule .. => .nonExistentModuleImport
  | notAnIndex .. => .invalidIndexType
  | implicitAny .. => .noImplicitAny
  | inferableAny .. => .noImplicitAny
  | possiblyUndefined .. => .objectPossiblyUndefined
  | objectPossiblyUndefined => .objectPossiblyUndefined

/-- What a wording quotes, each quoted value with the words in front of it. -/
def quotes : Wording → List (Text × Text)
  | notAssignable source target =>
    [("Type ", source), (" is not assignable to type ", target)]
  | conversion source target _ => [("Conversion of type ", source), (" to type ", target)]
  | missingProperty property source target =>
    [("Property ", property), (" is missing in type ", source),
      (" but required in type ", target)]
  | incorrectImplementation className interfaceName property =>
    [("Class ", className), (" incorrectly implements interface ", interfaceName),
      (". Property ", property), (" is missing in type ", className),
      (" but required in type ", interfaceName)]
  | unlikeBase property implType baseType propertyImplType propertyBaseType =>
    [("Property ", property), (" in type ", implType),
      (" is not assignable to the same property in base type ", baseType),
      (". Type ", propertyImplType), (" is not assignable to type ", propertyBaseType)]
  | unknownProperty property type => [("Property ", property), (" does not exist on type ", type)]
  | misspelledProperty property type suggested =>
    [("Property ", property), (" does not exist on type ", type), (". Did you mean ", suggested)]
  | readonlyProperty property => [("Cannot assign to ", property)]
  | redeclared name => [("Cannot redeclare block-scoped variable ", name)]
  | unknownName name => [("Cannot find name ", name)]
  | unknownModule name => [("Cannot find module ", name)]
  | notAnIndex type => [("Type ", type)]
  | implicitAny name => [("Parameter ", name), (" implicitly has an ", "any")]
  | inferableAny name => [("Parameter ", name), (" implicitly has an ", "any")]
  | possiblyUndefined name => [("", name), (" is possibly ", "undefined")]
  | objectPossiblyUndefined => [("Object is possibly ", "undefined")]

/-- The words behind the last quoted value. -/
def ending : Wording → Text
  | conversion _ _ reason => " may be a mistake".toList ++ reason
  | misspelledProperty .. => "?"
  | readonlyProperty .. => " because it is a read-only property."
  | unknownModule .. => " or its corresponding type declarations."
  | notAnIndex .. => " cannot be used as an index type."
  | implicitAny .. => " type."
  | inferableAny .. => " type, but a better type may be inferred from usage."
  | _ => "."

/-- The message in this wording. -/
def message (w : Wording) : Text := Message.spell w.quotes w.ending

/-- The message as it is read from its line, which may lose a carriage return at the end. -/
def readMessage (w : Wording) : Text := Message.spell w.quotes (Diagnostic.dropReturn w.ending)

/-- The line of output with a message in this wording. -/
def line (w : Wording) (file : Text) (row column : Nat) : Text :=
  LineParts.text ⟨file, Text.ofNat row, Text.ofNat column, w.code, w.message⟩

/-- What the templates of the problem are to be filled with. -/
def subjects : Wording → Subjects
  | notAssignable source target => [("from", source), ("to", target)]
  | conversion source target _ => [("from", source), ("to", target)]
  | missingProperty _ _ target => [("name", "object"), ("type", target)]
  | incorrectImplementation className interfaceName property =>
    [("className", className), ("interfaceName", interfaceName), ("property", property)]
  | unlikeBase property implType baseType propertyImplType propertyBaseType =>
    [("property", property), ("implType", implType), ("baseType", baseType),
      ("propertyImplType", propertyImplType), ("propertyBaseType", propertyBaseType)]
  | unknownProperty property type => [("property", property), ("type", type)]
  | misspelledProperty property type suggested =>
    [("property", property), ("type", type), ("suggested", suggested)]
  | readonlyProperty property => [("property", property)]
  | redeclared name => [("name", name)]
  | unknownName name => [("name", name)]
  | unknownModule name => [("name", name)]
  | notAnIndex type => [("type", type)]
  | implicitAny name => [("name", name)]
  | inferableAny name => [("name", name)]
  | possiblyUndefined name => [("name", name)]
  | objectPossiblyUndefined => [("name", "object")]

/-- All that a wording quotes. -/
def values (w : Wording) : List Text := w.quotes.map (·.2)

/-- The condition on values: no apostrophe in them and no blank at their end. -/
structure Readable (value : Text) : Prop where
  quote : Message.quote ∉ value
  blank : value.getLast? ≠ some ' '

instance (value : Text) : Decidable (Readable value) :=
  decidable_of_iff (Message.quote ∉ value ∧ value.getLast? ≠ some ' ')
    ⟨fun h => ⟨h.1, h.2⟩, fun h => ⟨h.quote, h.blank⟩⟩

/-! ## The line -/

theorem not_mem_toList {c : Char} {words : String} {t : Text} (hwords : words = String.ofList t)
    (h : c ∉ t) : c ∉ words.toList := by
  rwa [hwords, String.toList_ofList]

theorem quote_not_mem_words (w : Wording) : ∀ q ∈ w.quotes, Message.quote ∉ q.1 := by
  cases w
  all_goals
    repeat refine List.forall_mem_cons.2 ⟨not_mem_toList rfl (by decide), ?_⟩
    exact List.forall_mem_nil _

theorem toList_ne_nil {words : String} (h : words ≠ "") : words.toList ≠ [] :=
  fun hnil => h (String.toList_eq_nil_iff.1 hnil)

theorem ending_ne_nil (w : Wording) : w.ending ≠ [] := by
  cases w
  case conversion =>
    exact List.append_ne_nil_of_left_ne_nil (toList_ne_nil (by decide)) _
  all_goals exact toList_ne_nil (by decide)

/-- Only the ending can lose a carriage return. -/
theorem dropReturn_line (w : Wording) (file : Text) (row column : Nat) :
    Diagnostic.dropReturn (w.line file row column) =
      LineParts.text ⟨file, Text.ofNat row, Text.ofNat column, w.code, w.readMessage⟩ := by
  have hspell (t : Text) : Message.spell w.quotes t = Message.spell w.quotes [] ++ t :=
    Message.spell_append w.quotes [] t
  rw [line, message, readMessage, LineParts.text, LineParts.text, hspell w.ending,
    hspell (Diagnostic.dropReturn w.ending), ← List.append_assoc,
    Diagnostic.dropReturn_append _ w.ending_ne_nil, List.append_assoc]

/-! ## The subjects -/

section

variable {w : Wording} {d : Diagnostic}

theorem quote_not_mem_quotes (hw : ∀ value ∈ w.values, Readable value) :
    ∀ q ∈ w.quotes, Message.quote ∉ q.1 ∧ Message.quote ∉ q.2 := fun q hq =>
  ⟨w.quote_not_mem_words q hq, (hw q.2 (List.mem_map_of_mem hq)).quote⟩

/-- A part with a number below the ending is a word or a value of the wording. -/
theorem quoted_eq (hw : ∀ value ∈ w.values, Readable value) (hd : d.message = w.readMessage)
    (n : Nat) (hn : n < 2 * w.quotes.length) :
    Reading.quoted n d [] = (Message.spelledParts w.quotes)[n]? := by
  rw [Reading.quoted, hd]
  exact Message.part?_spell _ (quote_not_mem_quotes hw) hn

theorem underError_nil : Reading.underError d [] = none := by
  simp [Reading.underError, Source.tokenUnder?]

theorem assignment?_notAssignable {source target : Text}
    (hw : ∀ value ∈ (notAssignable source target).values, Readable value)
    (hd : d.message = (notAssignable source target).readMessage) :
    Message.assignment? d.message = some ⟨source, target⟩ := by
  obtain ⟨⟨-, hsource⟩, hrest⟩ := List.forall_mem_cons.1 (quote_not_mem_quotes hw)
  obtain ⟨⟨hwords, htarget⟩, -⟩ := List.forall_mem_cons.1 hrest
  rw [hd]
  exact Message.assignment?_spell hsource hwords htarget _

theorem lastType_missingProperty {property source target : Text}
    (hw : ∀ value ∈ (missingProperty property source target).values, Readable value)
    (hd : d.message = (missingProperty property source target).readMessage) :
    Reading.lastType d [] = some target := by
  have htarget : Readable target := hw target (by simp [values, quotes])
  have hending : Diagnostic.dropReturn (missingProperty property source target).ending = ['.'] :=
    rfl
  -- the words in front of the last value end with the mark
  have hwords : " but required in type ".toList ++ [Message.quote] =
      " but required in ".toList ++ Reading.typeMark := rfl
  have hmessage : d.message =
      ("Property ".toList ++ Message.quote :: (property ++ Message.quote ::
        (" is missing in type ".toList ++ Message.quote :: (source ++ Message.quote ::
          " but required in ".toList)))) ++
        (Reading.typeMark ++ (target ++ [Message.quote, '.'])) := by
    rw [hd, readMessage, hending, quotes]
    simp only [Message.spell, List.append_assoc, List.cons_append]
    rw [← List.append_assoc _ Reading.typeMark, ← hwords]
    simp only [List.append_assoc, List.cons_append, List.nil_append]
  rw [Reading.lastType, hmessage]
  exact Message.lastAfter?_typeMark htarget.quote htarget.blank _

theorem possiblyUndefined_quoted {name : Text}
    (hd : d.message = (possiblyUndefined name).readMessage) :
    Reading.possiblyUndefined d [] = Reading.quoted 1 d [] := by
  have hmark : Reading.unnamedMark.isPrefixOf d.message = false := by
    rw [hd]
    rfl
  rw [Reading.possiblyUndefined, hmark]
  rfl

theorem possiblyUndefined_object (hd : d.message = objectPossiblyUndefined.readMessage) :
    Reading.possiblyUndefined d [] = none := by
  have hmark : Reading.unnamedMark.isPrefixOf d.message = true := by
    rw [hd]
    rfl
  rw [Reading.possiblyUndefined, hmark]
  exact underError_nil

/-- Every subject of the problem is read as the value that the wording means. -/
theorem read_subjects (hw : ∀ value ∈ w.values, Readable value)
    (hd : d.message = w.readMessage) :
    (w.problem.subjects.map fun subject => subject.read d []) = w.subjects := by
  have hquoted := quoted_eq hw hd
  cases w
  case notAssignable source target =>
    have h := assignment?_notAssignable hw hd
    simp [problem, Problem.subjects, Subject.read, subjects, Reading.source, Reading.target, h]
  case missingProperty property source target =>
    have h := lastType_missingProperty hw hd
    simp [problem, Problem.subjects, Subject.read, subjects, h, underError_nil]
  case possiblyUndefined name =>
    have h := (possiblyUndefined_quoted hd).trans (hquoted 1 (by simp [quotes]))
    simp [problem, Problem.subjects, Subject.read, subjects, h, quotes, Message.spelledParts]
  case objectPossiblyUndefined =>
    have h := possiblyUndefined_object hd
    simp [problem, Problem.subjects, Subject.read, subjects, h]
  -- all other subjects are read by the number of their part
  all_goals
    simp [problem, Problem.subjects, Subject.read, subjects, hquoted, quotes, Message.spelledParts]

theorem suggest?_eq (hw : ∀ value ∈ w.values, Readable value) (hd : d.message = w.readMessage)
    (hkind : d.kind = .known w.problem) :
    d.suggest? [] .plain = some (w.problem.entry.suggestion w.subjects .plain) := by
  have hstrategy : d.suggest? [] .plain = Strategy.fromSubjects w.problem d [] .plain := by
    rw [Diagnostic.suggest?, hkind]
    cases w
    case missingProperty property source target =>
      have h := lastType_missingProperty hw hd
      simp [Options.strategy?, Options.plain, Strategy.standard?, problem,
        Strategy.missingProperty, h]
    all_goals rfl
  rw [hstrategy, Strategy.fromSubjects, read_subjects hw hd]

/-- The values of a wording fill all holes of the templates. -/
theorem fills_subjects (hw : ∀ value ∈ w.values, Readable value)
    (hd : d.message = w.readMessage) :
    (w.problem.entry.suggestion w.subjects .plain).Fills w.problem.entry
      (fun key => w.subjects.lookup key) := by
  have hkeys : ∀ key ∈ w.problem.subjects.map (·.key),
      (w.subjects.lookup key).isSome = true := by
    intro key hkey
    obtain ⟨subject, hmem, rfl⟩ := List.mem_map.1 hkey
    rw [List.lookup_isSome_iff, ← read_subjects hw hd]
    exact ⟨subject.read d [], List.mem_map_of_mem hmem, beq_self_eq_true _⟩
  refine fills_suggestion hkeys (hasOnly_templates ?_)
  cases w <;> simp [problem]

end

theorem ofCode_code (w : Wording) : Kind.ofCode w.code = .known w.problem := by
  cases w
  -- each case is a search in the table of codes, once the two tables of wordings are opened
  all_goals
    delta code problem
    dsimp only
    decide +kernel

theorem not_infix_code (w : Wording) : ¬ ": ".toList <:+: w.code := by
  cases w
  all_goals
    delta code
    dsimp only
    decide +kernel

/-- **Every value comes back.**  A line in one of the wordings is read as a diagnostic of its
problem at its place, and without tokens or replaced strategies the suggestion for it consists of
the templates of the problem with every hole filled by the value that was meant, whatever marks or
holes the values look like. -/
theorem suggestion_of_line (w : Wording) (file : Text) (row column : Nat) (hfile : '(' ∉ file)
    (hrow : row ≤ 2 ^ 53 - 1) (hcolumn : column ≤ 2 ^ 53 - 1)
    (hw : ∀ value ∈ w.values, Readable value) :
    ∃ d s, Diagnostic.parse? (w.line file row column) = some d ∧
      d.file = file ∧ d.line = row ∧ d.column = column ∧ d.kind = .known w.problem ∧
      d.suggest? [] .plain = some s ∧
      s.Fills w.problem.entry (fun key => w.subjects.lookup key) := by
  let p : LineParts := ⟨file, Text.ofNat row, Text.ofNat column, w.code, w.readMessage⟩
  have hp : p.WellFormed :=
    ⟨hfile, isCoordinate_ofNat hrow, isCoordinate_ofNat hcolumn, w.not_infix_code⟩
  have hparse := hp.parse? (w.dropReturn_line file row column)
  have hmessage : p.diagnostic.message = w.readMessage := rfl
  have hrow : p.diagnostic.line = row := congrArg _ (ofDigitChars_ofNat row)
  have hcolumn : p.diagnostic.column = column := congrArg _ (ofDigitChars_ofNat column)
  have hkind : p.diagnostic.kind = .known w.problem := w.ofCode_code
  exact ⟨p.diagnostic, _, hparse, rfl, hrow, hcolumn, hkind, suggest?_eq hw hmessage hkind,
    fills_subjects hw hmessage⟩

/-- Values that look like a hole, like the marks of a line and like the words around a value. -/
def imitating : Wording :=
  missingProperty "{type}" "): error TS2322: type" "x is missing in type {name}"

/-- The values of `imitating` come back from a line whose file looks like a mark and whose column is
the greatest one. -/
theorem suggestion_of_imitating_line :
    (∀ value ∈ imitating.values, Readable value) ∧
      ∃ d s, Diagnostic.parse? (imitating.line "a): error b" 0 (2 ^ 53 - 1)) = some d ∧
        d.file = "a): error b".toList ∧ d.line = (0 : Nat) ∧ d.column = (2 ^ 53 - 1 : Nat) ∧
        d.kind = .known imitating.problem ∧ d.suggest? [] .plain = some s ∧
        s.Fills imitating.problem.entry (fun key => imitating.subjects.lookup key) :=
  have hvalues : ∀ value ∈ imitating.values, Readable value := by decide +kernel
  ⟨hvalues, suggestion_of_line imitating "a): error b" 0 (2 ^ 53 - 1) (by decide +kernel)
    (by decide) (by decide) hvalues⟩

end Wording

end DiagnosticHints
