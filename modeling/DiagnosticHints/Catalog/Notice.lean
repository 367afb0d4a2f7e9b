import DiagnosticHints.Template

/-!
# Notices of the command line

What the command line itself has to say: files it cannot find or read, formats it does not know,
sources it has to do without.
-/

namespace DiagnosticHints

/-- How grave a notice is. -/
inductive Severity where
  | error
  | note
  | warning
  deriving DecidableEq, Repr

namespace Severity

/-- Every severity once. -/
def all : List Severity := [.error, .note, .warning]

/-- The name of a severity. -/
def name : Severity → Text
  | error => "Error"
  | note => "Note"
  | warning => "Warning"

/-- The rank of a severity, the gravest one first. -/
def rank : Severity → Nat
  | error => 0
  | warning => 1
  | note => 2

end Severity

/-- A notice of the command line. -/
inductive Notice where
  | fileNotFound
  | unreadableFile
  | unknownFormat
  | sourceUnavailable
  deriving DecidableEq, Repr

namespace Notice

/-- Every notice once, by ascending code. -/
def all : List Notice := [.fileNotFound, .unreadableFile, .unknownFormat, .sourceUnavailable]

/-- The code of a notice. -/
def code : Notice → Text
  | fileNotFound => "THCLI001"
  | unreadableFile => "THCLI002"
  | unknownFormat => "THCLI003"
  | sourceUnavailable => "THCLI004"

/-- How grave a notice is. -/
def severity : Notice → Severity
  | sourceUnavailable => .warning
  | _ => .error

/-- The template of a notice. -/
def template : Notice → Text
  | fileNotFound => "file not found: {path}"
  | unreadableFile => "cannot read file: {reason}"
  | unknownFormat => "unknown format \"{format}\""
  | sourceUnavailable => "source unavailable: {path}"

/-- What a notice means. -/
def description : Notice → Text
  | fileNotFound => "tshint couldn't find a file at this path."
  | unreadableFile => "The file exists but tshint can't open it."
  | unknownFormat => "tshint doesn't recognize this output format."
  | sourceUnavailable => "A diagnostic points at a source file that could not be read."

/-- What to do about a notice. -/
def advice : Notice → Text
  | fileNotFound => "Double-check the path and make sure the file exists."
  | unreadableFile => "Check that you have read permission for this file."
  | unknownFormat =>
    "Use `--format text` for readable output or `--format json` for tooling."
  | sourceUnavailable => "Run tshint from the directory tsc was run in, or pass `--cwd`."

/-- The notice of a code. -/
def ofCode? (code : Text) : Option Notice := all.find? (·.code == code)

/-- The text of a notice: its code in brackets and its template, filled. -/
def text (notice : Notice) (arguments : Arguments) : Text :=
  '[' :: (notice.code ++ ']' :: ' ' :: arguments.fill notice.template)

end Notice

end DiagnosticHints
