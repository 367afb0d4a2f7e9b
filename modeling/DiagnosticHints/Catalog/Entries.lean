import DiagnosticHints.Catalog.Entry
import DiagnosticHints.Problem

/-!
# The catalog of suggestions

One entry for each problem. Two problems have no templates, since the wording of their messages
does not name the subject reliably.
-/

namespace DiagnosticHints

namespace Catalog

/-- The templates for `TS2304`. -/
def cannotFindIdentifier : Entry where
  code := "TS2304"
  title := "Cannot find name"
  suggestions := List.map String.toList
    ["Identifier `{name}` cannot be found in the current scope."]
  help := some
    "Ensure that `{name}` is declared and accessible in the current scope or remove this reference."
  emphasis := []
  fallback := none

/-- The templates for `TS2352`. -/
def directCastPotentiallyMistaken : Entry where
  code := "TS2352"
  title := "Type assertion may be a mistake"
  suggestions := List.map String.toList
    ["Directly casting from `{from}` to `{to}` can be unsafe or mistaken, as both types do not overlap sufficiently."]
  help := some
    "Consider using type guards or intermediate conversions to ensure type safety when casting from `{from}` to `{to}`, only intermediately cast `as unknown` if this is desired."
  emphasis := [("from", .warning), ("to", .warning)]
  fallback := none

/-- The templates for `TS2394`. -/
def incompatibleOverload : Entry where
  code := "TS2394"
  title := "Overload signature not compatible"
  suggestions := List.map String.toList
    ["The provided arguments do not match any overload of the function."]
  help := some
    "Check the function overloads and ensure that this signature adheres to the parent signature."
  emphasis := []
  fallback := none

/-- The templates for `TS2420`. -/
def incorrectInterfaceImplementation : Entry where
  code := "TS2420"
  title := "Class incorrectly implements interface"
  suggestions := List.map String.toList
    ["Class `{className}` does not implement `{property}` from interface `{interfaceName}`."]
  help := some
    "Ensure that `{className}` provides all required properties and methods defined in the interface `{interfaceName}`."
  emphasis := []
  fallback := none

/-- The templates for `TS2345`. -/
def inlineTypeMismatch : Entry where
  code := "TS2345"
  title := "Argument type mismatch"
  suggestions := List.map String.toList
    ["Property `{property}` is provided as `{provided}` but expects `{expected}`."]
  help := some
    "Check the function arguments to ensure they match the expected parameter types."
  emphasis := [("expected", .expected)]
  fallback := none

/-- The templates for `TS2538`. -/
def invalidIndexType : Entry where
  code := "TS2538"
  title := "Cannot be used as index type"
  suggestions := List.map String.toList
    ["`{type}` cannot be used as an index accessor."]
  help := some
    "Ensure that the index type is `number`, `string`, `symbol` or a compatible index type."
  emphasis := []
  fallback := none

/-- The templates for `TS2451`. -/
def invalidShadowInScope : Entry where
  code := "TS2451"
  title := "Cannot redeclare block-scoped variable"
  suggestions := List.map String.toList
    ["Declared variable `{name}` can not shadow another variable in this scope."]
  help := some
    "Consider renaming the invalid shadowed variable `{name}`."
  emphasis := []
  fallback := none

/-- The templates for `TS2362`. -/
def leftSideArithmeticMustBeNumber : Entry where
  code := "TS2362"
  title := "Left-hand side must be numeric"
  suggestions := List.map String.toList
    ["The left-hand side of any arithmetic operation must be a number or enumerable."]
  help := some
    "Ensure that the value on the left side of the arithmetic operator is of type `number`, `bigint` or an enum member."
  emphasis := []
  fallback := none

/-- The templates for `TS2554`. -/
def missingParameters : Entry where
  code := "TS2554"
  title := "Wrong number of arguments"
  suggestions := List.map String.toList
    ["Check if all required arguments are provided when invoking `{name}`."]
  help := some
    "Function `{name}` is missing 1 or more arguments."
  emphasis := []
  fallback := none

/-- The templates for `TS2355`. -/
def missingReturnValue : Entry where
  code := "TS2355"
  title := "Function must return a value"
  suggestions := List.map String.toList
    ["A return value is missing where one is expected."]
  help := some
    "A function that declares a return type must return a value of that type on all branches."
  emphasis := []
  fallback := none

/-- The templates for `TS7006`. -/
def noImplicitAny : Entry where
  code := "TS7006"
  title := "Implicit any"
  suggestions := List.map String.toList
    ["`{name}` is implicitly `any`."]
  help := some
    "Consider adding type annotations to avoid implicit 'any' types."
  emphasis := []
  fallback := none

/-- The templates for `TS2307`. -/
def nonExistentModuleImport : Entry where
  code := "TS2307"
  title := "Cannot find module"
  suggestions := List.map String.toList
    ["Module `{name}` does not exist."]
  help := some
    "Ensure that the module `{name}` is installed and the import path is correct."
  emphasis := []
  fallback := none

/-- The templates for `TS18046`. -/
def objectIsUnknown : Entry where
  code := "TS18046"
  title := "Object is of type unknown"
  suggestions := []
  help := none
  emphasis := []
  fallback := none

/-- The templates for `TS2531`. -/
def objectPossiblyNull : Entry where
  code := "TS2531"
  title := "Object is possibly null"
  suggestions := []
  help := none
  emphasis := []
  fallback := none

/-- The templates for `TS2532`. -/
def objectPossiblyUndefined : Entry where
  code := "TS2532"
  title := "Object is possibly undefined"
  suggestions := List.map String.toList
    ["`{name}` may be `undefined` here."]
  help := some
    "Consider optional chaining or an explicit check before attempting to access `{name}`."
  emphasis := []
  fallback := none

/-- The templates for `TS2339`. -/
def propertyDoesNotExist : Entry where
  code := "TS2339"
  title := "Property does not exist"
  suggestions := List.map String.toList
    ["Property `{property}` is not found on type `{type}`."]
  help := some
    "Ensure the property exists on the type or adjust your code to avoid accessing it."
  emphasis := []
  fallback := none

/-- The templates for `TS2741`. -/
def propertyMissingInType : Entry where
  code := "TS2741"
  title := "Property is missing in type"
  suggestions := List.map String.toList
    ["Verify that `{name}` matches the annotated type `{type}`."]
  help := some
    "Ensure that `{name}` has all required properties defined in the type `{type}`."
  emphasis := []
  fallback := some {
    suggestions := List.map String.toList
      ["Verify that the object structure includes all required members of the specified type."]
    help := some
      "Ensure the object has all required properties defined in the type." }

/-- The templates for `TS2416`. -/
def propertyNotAssignableToBase : Entry where
  code := "TS2416"
  title := "Property not assignable to base type"
  suggestions := List.map String.toList
    ["Property `{property}` in class `{implType}` is not assignable to the same property in base class `{baseType}`.",
      "Property `{property}` is implemented as type `{propertyImplType}` but defined as `{propertyBaseType}`."]
  help := some
    "Ensure that the type of property `{property}` in class `{implType}` is compatible with the type defined in base class `{baseType}`."
  emphasis := [("propertyBaseType", .expected)]
  fallback := none

/-- The templates for `TS2540`. -/
def readonlyPropertyAssignment : Entry where
  code := "TS2540"
  title := "Cannot assign to read-only property"
  suggestions := List.map String.toList
    ["Property `{property}` is readonly and thus can not be re-assigned."]
  help := some
    "Consider removing the assignment to the read-only property `{property}` or changing its declaration to be mutable."
  emphasis := []
  fallback := none

/-- The templates for `TS2363`. -/
def rightSideArithmeticMustBeNumber : Entry where
  code := "TS2363"
  title := "Right-hand side must be numeric"
  suggestions := List.map String.toList
    ["The right-hand side of any arithmetic operation must be a number or enumerable."]
  help := some
    "Ensure that the value on the right side of the arithmetic operator is of type `number`, `bigint` or an enum member."
  emphasis := []
  fallback := none

/-- The templates for `TS2556`. -/
def spreadArgumentMustBeTuple : Entry where
  code := "TS2556"
  title := "Invalid spread argument"
  suggestions := List.map String.toList
    ["The argument being spread must be a tuple type or a `spreadable` type."]
  help := some
    "Ensure that the argument being spread is a tuple type compatible with the function's parameter type."
  emphasis := []
  fallback := none

/-- The templates for `TS2322`. -/
def typeMismatch : Entry where
  code := "TS2322"
  title := "Type is not assignable"
  suggestions := List.map String.toList
    ["Try converting this value from `{from}` to `{to}`."]
  help := some
    "Ensure that the types are compatible or perform an explicit conversion."
  emphasis := [("to", .expected)]
  fallback := none

/-- The templates for `TS2551`. -/
def typoPropertyOnType : Entry where
  code := "TS2551"
  title := "Property does not exist (did you mean)"
  suggestions := List.map String.toList
    ["Property `{property}` does not exist on type `{type}`. Try `{suggested}` instead."]
  help := some
    "Check for typos in the property name `{property}` or ensure that it is defined on type `{type}`."
  emphasis := [("suggested", .expected), ("type", .warning)]
  fallback := none

/-- The templates for `TS2349`. -/
def uncallableExpression : Entry where
  code := "TS2349"
  title := "Expression is not callable"
  suggestions := List.map String.toList
    ["Expression `{name}` can not be invoked or called."]
  help := some
    "Ensure that `{name}` is a function or has a callable signature before invoking it."
  emphasis := []
  fallback := none

/-- The templates for `TS2367`. -/
def unintentionalComparison : Entry where
  code := "TS2367"
  title := "Condition always returns constant"
  suggestions := List.map String.toList
    ["Impossible to compare as left side value is narrowed to a single value."]
  help := some
    "Review the comparison logic to ensure it makes sense."
  emphasis := []
  fallback := none
end Catalog

/-- The catalog entry of a problem. -/
def Problem.entry : Problem → Entry
  | .cannotFindIdentifier => Catalog.cannotFindIdentifier
  | .directCastPotentiallyMistaken => Catalog.directCastPotentiallyMistaken
  | .incompatibleOverload => Catalog.incompatibleOverload
  | .incorrectInterfaceImplementation => Catalog.incorrectInterfaceImplementation
  | .inlineTypeMismatch => Catalog.inlineTypeMismatch
  | .invalidIndexType => Catalog.invalidIndexType
  | .invalidShadowInScope => Catalog.invalidShadowInScope
  | .leftSideArithmeticMustBeNumber => Catalog.leftSideArithmeticMustBeNumber
  | .missingParameters => Catalog.missingParameters
  | .missingReturnValue => Catalog.missingReturnValue
  | .noImplicitAny => Catalog.noImplicitAny
  | .nonExistentModuleImport => Catalog.nonExistentModuleImport
  | .objectIsUnknown => Catalog.objectIsUnknown
  | .objectPossiblyNull => Catalog.objectPossiblyNull
  | .objectPossiblyUndefined => Catalog.objectPossiblyUndefined
  | .propertyDoesNotExist => Catalog.propertyDoesNotExist
  | .propertyMissingInType => Catalog.propertyMissingInType
  | .propertyNotAssignableToBase => Catalog.propertyNotAssignableToBase
  | .readonlyPropertyAssignment => Catalog.readonlyPropertyAssignment
  | .rightSideArithmeticMustBeNumber => Catalog.rightSideArithmeticMustBeNumber
  | .spreadArgumentMustBeTuple => Catalog.spreadArgumentMustBeTuple
  | .typeMismatch => Catalog.typeMismatch
  | .typoPropertyOnType => Catalog.typoPropertyOnType
  | .uncallableExpression => Catalog.uncallableExpression
  | .unintentionalComparison => Catalog.unintentionalComparison

end DiagnosticHints
