import DiagnosticHints.Failure

/-!
# The console

What a run of the command line writes: lines on the two streams, coloured in one way or another.
The logger that writes the lines is not a part of the program; what the program relies on stands in
its structure.
-/

namespace DiagnosticHints

/-- A colour of a text, or of the ground behind it. -/
inductive Color where
  | red
  | green
  | yellow
  | blue
  | white
  | redGround
  deriving DecidableEq, Repr

/-- A way to colour a text. -/
abbrev Painter := Color → Text → Text

namespace Painter

/-- The name of a colour. -/
def name : Color → Text
  | .red => "red"
  | .green => "green"
  | .yellow => "yellow"
  | .blue => "blue"
  | .white => "white"
  | .redGround => "bgRed"

/-- Writes the name of the colour around the text, for a reader that shows no colours. -/
def named : Painter := fun color t => name color ++ '(' :: (t ++ [')'])

/-- The number of a colour in the control sequences of a terminal. -/
def sequenceNumber : Color → Nat
  | .red => 31
  | .green => 32
  | .yellow => 33
  | .blue => 34
  | .white => 37
  | .redGround => 41

/-- The number that ends a colour again. -/
def resetNumber : Color → Nat
  | .redGround => 49
  | _ => 39

/-- The control sequence with a number. -/
def controlSequence (n : Nat) : Text := '\x1b' :: '[' :: ((Nat.toDigits 10 n) ++ ['m'])

/-- Colours the text on a terminal. -/
def terminal : Painter := fun color t =>
  controlSequence (sequenceNumber color) ++ t ++ controlSequence (resetNumber color)

end Painter

/-- Where a line is written. -/
inductive Stream where
  | output
  | errors
  deriving DecidableEq, Repr

/-- A line of the log, as the logger of the command framework writes it: the stream that the logger
chooses for a line of its level, and the text behind the label of that level. It may hold line
feeds of its own. -/
structure LogLine where
  stream : Stream
  text : Text
  deriving DecidableEq, Repr

namespace LogLine

/-- A line of standard output without a label. -/
def plain (t : Text) : LogLine := ⟨.output, t⟩

theorem plain_inj {t u : Text} : plain t = plain u ↔ t = u := by
  rw [plain, plain, LogLine.mk.injEq, and_iff_right rfl]

end LogLine

/-- What a line of the log is: a result, a piece of information, a warning, an error of the run, or
an error in the use of the command line. -/
inductive LogLevel where
  | log
  | info
  | warning
  | error
  | misuse
  deriving DecidableEq, Repr

/-- A logger: the stream and the label of a line of each level. It is the one of the command
framework that the program uses, and what is required here is in the documentation of that logger:
results have no label and go to standard output, information and warnings go there as well, and
errors go to the other stream. -/
structure Logger where
  stream : LogLevel → Stream
  label : LogLevel → Text
  stream_log : stream .log = .output
  label_log : label .log = []
  stream_info : stream .info = .output
  stream_warning : stream .warning = .output
  stream_error : stream .error = .errors

namespace Logger

/-- The line of a level with a text. -/
def line (logger : Logger) (level : LogLevel) (t : Text) : LogLine :=
  ⟨logger.stream level, logger.label level ++ t⟩

/-- A coloured label in brackets, with a space behind it. -/
def bracketed (paint : Painter) (color : Color) (label : Text) : Text :=
  '[' :: ' ' :: (paint color label ++ [' ', ']', ' '])

/-- The logger with the labels that the framework writes, coloured in the given way. -/
def standard (paint : Painter) : Logger where
  stream
    | .error | .misuse => .errors
    | _ => .output
  label
    | .log => []
    | .info => bracketed paint .blue "info"
    | .warning => bracketed paint .yellow "warn"
    | .error => bracketed paint .red "error"
    | .misuse => paint .redGround (paint .white "  ERROR  ") ++ [' ']
  stream_log := rfl
  label_log := rfl
  stream_info := rfl
  stream_warning := rfl
  stream_error := rfl

@[simp]
theorem line_log (logger : Logger) (t : Text) : logger.line .log t = .plain t := by
  rw [line, logger.stream_log, logger.label_log]
  rfl

theorem line_warning (logger : Logger) (t : Text) :
    logger.line .warning t = ⟨.output, logger.label .warning ++ t⟩ := by
  rw [line, logger.stream_warning]

theorem line_error (logger : Logger) (t : Text) :
    logger.line .error t = ⟨.errors, logger.label .error ++ t⟩ := by
  rw [line, logger.stream_error]

example : (standard Painter.named).line .error "x" = ⟨.errors, "[ red(error) ] x"⟩ := by decide

end Logger

/-- What a run leaves: its exit code, its log, and lines printed past the log. -/
structure Outcome where
  exitCode : Nat
  log : List LogLine
  printed : List Text
  deriving DecidableEq, Repr

namespace Outcome

/-- A run that succeeded. -/
def success (log : List LogLine) : Outcome := ⟨0, log, []⟩

/-- A run that ended with one line about what went wrong. -/
def failed (line : LogLine) : Outcome := ⟨1, [line], []⟩

end Outcome

/-- What a run sees of the world: the working directory, standard input, the files, the way its
console shows colours, and its logger. -/
structure Environment (m : Type → Type) where
  workdir : Text
  input : m Text
  read : Text → m (Except Failure Text)
  paint : Painter
  logger : Logger := .standard paint

end DiagnosticHints
