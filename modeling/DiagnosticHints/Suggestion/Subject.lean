import DiagnosticHints.Diagnostic.Basic
import DiagnosticHints.Message.ObjectType
import DiagnosticHints.Source.Token

/-!
# Subjects of a problem

For each problem the keys of its templates, and for each key where its subject is read: from a
quoted part of the message or from the token under the error. A subject that cannot be read is
replaced by a noun, so that no hole stays open.
-/

namespace DiagnosticHints

/-- A way to read a subject from a diagnostic and the tokens of its file. -/
abbrev Reading := Diagnostic → List Token → Option Text

namespace Reading

/-- The part of the message with a given number. -/
def quoted (index : Nat) : Reading := fun d _ => Message.part? d.message index

/-- The token under the error. -/
def underError : Reading := fun d tokens =>
  (Source.tokenUnder? tokens d.line d.column).map (·.raw)

/-- The first of two readings, or the second one where the first finds nothing. -/
def orElse (first second : Reading) : Reading := fun d tokens =>
  match first d tokens with
  | some subject => some subject
  | none => second d tokens

/-- The type of the value of an assignment. -/
def source : Reading := fun d _ => (Message.assignment? d.message).map (·.source)

/-- The type of the place of an assignment. -/
def target : Reading := fun d _ => (Message.assignment? d.message).map (·.target)

/-- The mark in front of a quoted type. -/
def typeMark : Text := "type '"

/-- The last type that the message quotes. -/
def lastType : Reading := fun d _ => Message.lastAfter? d.message typeMark

/-- The start of the wording that does not name what may be undefined. -/
def unnamedMark : Text := "Object is possibly"

/-- What may be undefined: the token under the error where the message does not name it. -/
def possiblyUndefined : Reading := fun d tokens =>
  if unnamedMark.isPrefixOf d.message then underError d tokens else quoted 1 d tokens

end Reading

/-- A key of a problem's templates, the noun that stands in for a missing subject, and where the
subject is read. -/
structure Subject where
  key : Text
  noun : Text
  reading : Reading

/-- The key with its subject, or with the noun instead. -/
def Subject.read (subject : Subject) (d : Diagnostic) (tokens : List Token) : Text × Text :=
  (subject.key, (subject.reading d tokens).getD subject.noun)

open Reading in
/-- The subjects of a problem. -/
def Problem.subjects : Problem → List Subject
  | .cannotFindIdentifier => [⟨"name", "identifier", quoted 1⟩]
  | .directCastPotentiallyMistaken => [⟨"from", "type", quoted 1⟩, ⟨"to", "type", quoted 3⟩]
  | .incompatibleOverload => []
  | .incorrectInterfaceImplementation =>
    [⟨"className", "class", quoted 1⟩, ⟨"interfaceName", "interface", quoted 3⟩,
      ⟨"property", "property", quoted 5⟩]
  | .inlineTypeMismatch => []
  | .invalidIndexType => [⟨"type", "type", quoted 1⟩]
  | .invalidShadowInScope => [⟨"name", "variable", quoted 1⟩]
  | .leftSideArithmeticMustBeNumber => []
  | .missingParameters => [⟨"name", "function", orElse underError (quoted 1)⟩]
  | .missingReturnValue => []
  | .noImplicitAny => [⟨"name", "parameter", quoted 1⟩]
  | .nonExistentModuleImport => [⟨"name", "module", quoted 1⟩]
  | .objectPossiblyNull => []
  | .objectPossiblyUndefined => [⟨"name", "object", possiblyUndefined⟩]
  | .objectIsUnknown => []
  | .propertyDoesNotExist => [⟨"property", "property", quoted 1⟩, ⟨"type", "type", quoted 3⟩]
  | .propertyMissingInType => [⟨"name", "object", underError⟩, ⟨"type", "type", lastType⟩]
  | .propertyNotAssignableToBase =>
    [⟨"property", "property", quoted 1⟩, ⟨"implType", "type", quoted 3⟩,
      ⟨"baseType", "base type", quoted 5⟩, ⟨"propertyImplType", "type", quoted 7⟩,
      ⟨"propertyBaseType", "base type", quoted 9⟩]
  | .readonlyPropertyAssignment => [⟨"property", "property", quoted 1⟩]
  | .rightSideArithmeticMustBeNumber => []
  | .spreadArgumentMustBeTuple => []
  | .typeMismatch => [⟨"from", "type", source⟩, ⟨"to", "type", target⟩]
  | .typoPropertyOnType =>
    [⟨"property", "property", quoted 1⟩, ⟨"type", "type", quoted 3⟩,
      ⟨"suggested", "property", quoted 5⟩]
  | .uncallableExpression => [⟨"name", "expression", orElse (quoted 1) underError⟩]
  | .unintentionalComparison => []

end DiagnosticHints
