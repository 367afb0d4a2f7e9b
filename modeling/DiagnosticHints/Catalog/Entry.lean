import DiagnosticHints.Template

/-!
# Entries of the catalog

An entry holds the templates of one problem and says how the values put into them are emphasised.
-/

namespace DiagnosticHints

/-- How a value is emphasised: as what is wrong, as what was expected, or as worth a second
look. -/
inductive Tone where
  | error
  | expected
  | warning
  deriving DecidableEq, Repr

namespace Tone

/-- Every tone once. -/
def all : List Tone := [.error, .expected, .warning]

/-- The name of a tone in a catalog. -/
def name : Tone → Text
  | error => "error"
  | expected => "expected"
  | warning => "warning"

/-- The tone of a name. -/
def ofName? (name : Text) : Option Tone := all.find? (·.name == name)

end Tone

/-- The templates used when the subject of a problem is not found. -/
structure Fallback where
  suggestions : List Text
  help : Option Text
  deriving DecidableEq, Repr

/-- The templates of one problem. -/
structure Entry where
  code : Text
  title : Text
  suggestions : List Text
  help : Option Text
  emphasis : List (Text × Tone)
  fallback : Option Fallback
  deriving DecidableEq, Repr

/-- The tone of the value of a key; values are wrong unless the entry says otherwise. -/
def Entry.tone (entry : Entry) (key : Text) : Tone := (entry.emphasis.lookup key).getD .error

end DiagnosticHints
