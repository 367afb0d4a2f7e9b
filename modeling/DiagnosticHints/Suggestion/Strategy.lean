import DiagnosticHints.Catalog.Entries
import DiagnosticHints.Suggestion.Basic
import DiagnosticHints.Suggestion.Subject

/-!
# From a diagnostic to a suggestion

Every problem but two has a standard strategy, which reads its subjects and fills its templates.
A caller may put a strategy of its own in the place of any standard one.
-/

namespace DiagnosticHints

/-- A way to a suggestion for a diagnostic, given the tokens of its file. -/
abbrev Strategy := Diagnostic → List Token → Emphasis → Option Suggestion

namespace Strategy

/-- Fills the templates of a problem with its subjects. -/
def fromSubjects (p : Problem) : Strategy := fun d tokens emphasis =>
  some (p.entry.suggestion (p.subjects.map (·.read d tokens)) emphasis)

/-- Falls back when the message does not name the type that lacks a property. -/
def missingProperty : Strategy := fun d tokens emphasis =>
  match Reading.lastType d tokens with
  | none => some (Problem.propertyMissingInType.entry.fallbackSuggestion [] emphasis)
  | some _ => fromSubjects .propertyMissingInType d tokens emphasis

/-- The subjects of a line about one property. -/
def differenceSubjects (x : PropertyDifference) : Subjects :=
  [("expected", x.expected), ("property", x.property), ("provided", x.provided)]

/-- Gives each property that differs its own lines; without one only the help remains. -/
def perDifference : Strategy := fun d _ emphasis =>
  let entry := Problem.inlineTypeMismatch.entry
  let differences := ((Message.argumentDifference? d.message).map (·.properties)).getD []
  some
    { lines := differences.flatMap fun x =>
        entry.fillAll (differenceSubjects x) emphasis entry.suggestions
      help := entry.fillHelp [] emphasis entry.help }

/-- The standard strategy of a problem. Messages about null and unknown objects do not name their
subject reliably, so these two problems have none. -/
def standard? : Problem → Option Strategy
  | .objectPossiblyNull => none
  | .objectIsUnknown => none
  | .inlineTypeMismatch => some perDifference
  | .propertyMissingInType => some missingProperty
  | p => some (fromSubjects p)

end Strategy

/-- How suggestions are made: the emphasis of subjects, and strategies that take the place of
standard ones. -/
structure Options where
  emphasis : Emphasis
  replacement? : Problem → Option Strategy

/-- No emphasis and only standard strategies. -/
def Options.plain : Options := ⟨Emphasis.plain, fun _ => none⟩

/-- The strategy for a problem. -/
def Options.strategy? (options : Options) (p : Problem) : Option Strategy :=
  match options.replacement? p with
  | some strategy => some strategy
  | none => Strategy.standard? p

/-- The suggestion for a diagnostic, given the tokens of its file. -/
def Diagnostic.suggest? (d : Diagnostic) (tokens : List Token) (options : Options) :
    Option Suggestion :=
  match d.kind with
  | .unsupported _ => none
  | .known p => (options.strategy? p).bind fun strategy => strategy d tokens options.emphasis

end DiagnosticHints
