import DiagnosticHints.Text.Basic

/-!
# Problems a checker reports

The problems this library knows, each with its name, the code that stands for it, and the further
codes that a checker gives the same problem under another wording. No code belongs to two
problems.
-/

namespace DiagnosticHints

/-- A problem that can be explained. -/
inductive Problem where
  | cannotFindIdentifier
  | directCastPotentiallyMistaken
  | incompatibleOverload
  | incorrectInterfaceImplementation
  | inlineTypeMismatch
  | invalidIndexType
  | invalidShadowInScope
  | leftSideArithmeticMustBeNumber
  | missingParameters
  | missingReturnValue
  | noImplicitAny
  | nonExistentModuleImport
  | objectPossiblyNull
  | objectPossiblyUndefined
  | objectIsUnknown
  | propertyDoesNotExist
  | propertyMissingInType
  | propertyNotAssignableToBase
  | readonlyPropertyAssignment
  | rightSideArithmeticMustBeNumber
  | spreadArgumentMustBeTuple
  | typeMismatch
  | typoPropertyOnType
  | uncallableExpression
  | unintentionalComparison
  deriving DecidableEq, Repr

namespace Problem

/-- Every problem once, in the order of the table of codes. -/
def all : List Problem :=
  [.cannotFindIdentifier, .directCastPotentiallyMistaken, .incompatibleOverload,
    .incorrectInterfaceImplementation, .inlineTypeMismatch, .invalidIndexType,
    .invalidShadowInScope, .leftSideArithmeticMustBeNumber, .missingParameters,
    .missingReturnValue, .noImplicitAny, .nonExistentModuleImport, .objectPossiblyNull,
    .objectPossiblyUndefined, .objectIsUnknown, .propertyDoesNotExist, .propertyMissingInType,
    .propertyNotAssignableToBase, .readonlyPropertyAssignment, .rightSideArithmeticMustBeNumber,
    .spreadArgumentMustBeTuple, .typeMismatch, .typoPropertyOnType, .uncallableExpression,
    .unintentionalComparison]

/-- The name of a problem in reports. -/
def name : Problem → Text
  | cannotFindIdentifier => "cannot-find-identifier"
  | directCastPotentiallyMistaken => "direct-cast-potentially-mistaken"
  | incompatibleOverload => "incompatible-overload"
  | incorrectInterfaceImplementation => "incorrect-interface-implementation"
  | inlineTypeMismatch => "inline-type-mismatch"
  | invalidIndexType => "invalid-index-type"
  | invalidShadowInScope => "invalid-shadow-in-scope"
  | leftSideArithmeticMustBeNumber => "left-side-arithmetic-must-be-number"
  | missingParameters => "missing-parameters"
  | missingReturnValue => "missing-return-value"
  | noImplicitAny => "no-implicit-any"
  | nonExistentModuleImport => "non-existent-module-import"
  | objectPossiblyNull => "object-possibly-null"
  | objectPossiblyUndefined => "object-possibly-undefined"
  | objectIsUnknown => "object-is-unknown"
  | propertyDoesNotExist => "property-does-not-exist"
  | propertyMissingInType => "property-missing-in-type"
  | propertyNotAssignableToBase => "property-not-assignable-to-base"
  | readonlyPropertyAssignment => "readonly-property-assignment"
  | rightSideArithmeticMustBeNumber => "right-side-arithmetic-must-be-number"
  | spreadArgumentMustBeTuple => "spread-argument-must-be-tuple"
  | typeMismatch => "type-mismatch"
  | typoPropertyOnType => "typo-property-on-type"
  | uncallableExpression => "uncallable-expression"
  | unintentionalComparison => "unintentional-comparison"

/-- The code that stands for a problem. -/
def code : Problem → Text
  | cannotFindIdentifier => "TS2304"
  | directCastPotentiallyMistaken => "TS2352"
  | incompatibleOverload => "TS2394"
  | incorrectInterfaceImplementation => "TS2420"
  | inlineTypeMismatch => "TS2345"
  | invalidIndexType => "TS2538"
  | invalidShadowInScope => "TS2451"
  | leftSideArithmeticMustBeNumber => "TS2362"
  | missingParameters => "TS2554"
  | missingReturnValue => "TS2355"
  | noImplicitAny => "TS7006"
  | nonExistentModuleImport => "TS2307"
  | objectPossiblyNull => "TS2531"
  | objectPossiblyUndefined => "TS2532"
  | objectIsUnknown => "TS18046"
  | propertyDoesNotExist => "TS2339"
  | propertyMissingInType => "TS2741"
  | propertyNotAssignableToBase => "TS2416"
  | readonlyPropertyAssignment => "TS2540"
  | rightSideArithmeticMustBeNumber => "TS2363"
  | spreadArgumentMustBeTuple => "TS2556"
  | typeMismatch => "TS2322"
  | typoPropertyOnType => "TS2551"
  | uncallableExpression => "TS2349"
  | unintentionalComparison => "TS2367"

/-- The other codes of a problem. -/
def aliases : Problem → List Text
  | noImplicitAny => ["TS7044".toList]
  | objectPossiblyNull => ["TS18047".toList]
  | objectPossiblyUndefined => ["TS18048".toList]
  | _ => []

/-- All codes of a problem, the one that stands for it first. -/
def codes (p : Problem) : List Text := p.code :: p.aliases

/-- Every code with its problem, in the order of the problems. -/
def table : List (Text × Problem) := all.flatMap fun p => p.codes.map fun code => (code, p)

/-- The problem of a code, if it is in the table. -/
def ofCode? (code : Text) : Option Problem := table.lookup code

/-- The problem of a name. -/
def ofName? (name : Text) : Option Problem := all.find? (·.name == name)

/-- The code that stands for a problem leads back to it. -/
theorem ofCode?_code (p : Problem) : ofCode? p.code = some p := by
  cases p <;> decide +kernel

end Problem

end DiagnosticHints
