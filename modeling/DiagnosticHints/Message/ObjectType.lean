import DiagnosticHints.Message.PropertyMap
import DiagnosticHints.Message.Quoted
import DiagnosticHints.Text.Blank
import DiagnosticHints.Text.Units

/-!
# Object types in a message

A checker writes an object type as a list of properties in braces. Two such types are compared
property by property: what both have with different types is a difference.
-/

namespace DiagnosticHints

/-- A property that is provided with another type than the expected one. -/
structure PropertyDifference where
  property : Text
  provided : Text
  expected : Text
  deriving DecidableEq, Repr

namespace PropertyMap

/-- The property and the type of one clause of an object type, split at the first colon. -/
def clause? (clause : Text) : Option (Text × Text) :=
  (Text.splitFirst? [':'] (Text.trim clause)).map fun (property, type) =>
    (Text.trim property, Text.trim type)

/-- The properties of an object type in braces; a text without braces has none, and clauses
without a colon are passed over. -/
def ofLiteral (literal : Text) : PropertyMap :=
  let text := Text.trim literal
  if text.head? = some '\x7b' ∧ text.getLast? = some '\x7d' then
    ofList (((text.drop 1).dropLast.splitOn ';').filterMap clause?)
  else empty

/-- The properties of both maps whose types differ, ordered by their UTF-16 units. -/
def differences (provided expected : PropertyMap) : List PropertyDifference :=
  (expected.keys.mergeSort Text.unitsLe).filterMap fun property =>
    match provided.get? property, expected.get? property with
    | some p, some e => if p = e then none else some ⟨property, p, e⟩
    | _, _ => none

end PropertyMap

/-- The types of an argument and of its parameter, with the properties that differ. -/
structure ArgumentDifference where
  provided : Text
  expected : Text
  properties : List PropertyDifference
  deriving DecidableEq, Repr

namespace Message

/-- The mark in front of the type of an argument. -/
def argumentMark : Text := "Argument of type '"

/-- The mark in front of the type of a parameter. -/
def parameterMark : Text := "to parameter of type '"

/-- The difference between an argument and its parameter, when the message names both types. -/
def argumentDifference? (message : Text) : Option ArgumentDifference := do
  let provided ← firstAfter? message argumentMark
  let expected ← firstAfter? message parameterMark
  return ⟨provided, expected,
    (PropertyMap.ofLiteral provided).differences (PropertyMap.ofLiteral expected)⟩

end Message

end DiagnosticHints
