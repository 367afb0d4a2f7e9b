import DiagnosticHints.Text.Basic

/-!
# Paths of files

A path is followed name by name from a location: an empty name and a dot stay, two dots go up and
stop at the root, and a slash in front starts again from the root. The text of a location is
absolute and ends in no slash, but for the root itself.
-/

namespace DiagnosticHints

namespace Path

/-- A place in the tree of directories: the names that lead to it, the last one first. -/
abbrev Location := List Text

/-- The location that one name leads to. -/
def enter (here : Location) (name : Text) : Location :=
  if name = [] ∨ name = ['.'] then here
  else if name = ['.', '.'] then here.drop 1
  else name :: here

/-- The location that a path leads to. -/
def follow (here : Location) (path : Text) : Location :=
  (path.splitOn '/').foldl enter (if path.head? = some '/' then [] else here)

/-- The absolute path of a location. -/
def absolute (here : Location) : Text := '/' :: List.intercalate ['/'] here.reverse

/-- The absolute path that some paths lead to, one after the other, from a working directory. -/
def resolve (workdir : Text) (paths : List Text) : Text :=
  absolute ((workdir :: paths).foldl follow [])

/-- The absolute path of a file named in a diagnostic, when the checker ran in `directory`, or in
the working directory when none is given. -/
def ofSource (workdir : Text) (directory : Option Text) (file : Text) : Text :=
  resolve workdir [directory.getD ['.'], file]

end Path

end DiagnosticHints
