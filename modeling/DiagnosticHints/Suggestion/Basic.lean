import DiagnosticHints.Catalog.Entry

/-!
# Suggestions

A suggestion is a list of lines and perhaps a line of help, made by filling the templates of an
entry with subjects. Each subject may be emphasised by the tone its entry gives it.
-/

namespace DiagnosticHints

/-- What to do about a diagnostic. -/
structure Suggestion where
  lines : List Text
  help : Option Text
  deriving DecidableEq, Repr

/-- A decoration of values, which depends on their tone. -/
abbrev Emphasis := Text → Tone → Text

/-- The decoration that leaves every value as it is. -/
def Emphasis.plain : Emphasis := fun value _ => value

/-- The subjects of a message, by the keys of the templates. -/
abbrev Subjects := List (Text × Text)

namespace Entry

/-- A template of the entry with the subjects in its holes, each emphasised by its tone. -/
def fill (entry : Entry) (subjects : Subjects) (emphasis : Emphasis) (template : Text) : Text :=
  Template.fill (fun key => (subjects.lookup key).map (emphasis · (entry.tone key))) template

/-- Some templates of the entry, filled. -/
def fillAll (entry : Entry) (subjects : Subjects) (emphasis : Emphasis) (templates : List Text) :
    List Text :=
  templates.map (entry.fill subjects emphasis)

/-- A template for help, filled if there is one. -/
def fillHelp (entry : Entry) (subjects : Subjects) (emphasis : Emphasis)
    (template : Option Text) : Option Text :=
  template.map (entry.fill subjects emphasis)

/-- The suggestion of an entry for some subjects. -/
def suggestion (entry : Entry) (subjects : Subjects) (emphasis : Emphasis) : Suggestion where
  lines := entry.fillAll subjects emphasis entry.suggestions
  help := entry.fillHelp subjects emphasis entry.help

/-- The suggestion of an entry when its subject is not found. The entry's own lines and help are
used where it has no others for this case. -/
def fallbackSuggestion (entry : Entry) (subjects : Subjects) (emphasis : Emphasis) : Suggestion :=
  match entry.fallback with
  | none => entry.suggestion subjects emphasis
  | some fallback =>
    { lines := entry.fillAll subjects emphasis fallback.suggestions
      help := entry.fillHelp subjects emphasis (fallback.help.or entry.help) }

end Entry

end DiagnosticHints
