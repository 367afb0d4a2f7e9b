import DiagnosticHints.Session.Explain
import DiagnosticHints.Session.Setting

/-!
# The command line

The commands, their flags, and what each of them does. A flag may stand anywhere behind its
command. The version is told even where the rest of the command line is wrong; a command runs only
if nothing is wrong and the version was not asked for.
-/

namespace DiagnosticHints

/-- A flag of some command. -/
inductive Flag where
  | cwd
  | format
  | plain
  | help
  | version
  deriving DecidableEq, Repr

namespace Flag

/-- The name of a flag. -/
def name : Flag → Text
  | cwd => "cwd"
  | format => "format"
  | plain => "plain"
  | help => "help"
  | version => "version"

/-- The letter that stands for a flag, if there is one. -/
def letter? : Flag → Option Char
  | format => some 'f'
  | help => some 'h'
  | version => some 'v'
  | _ => none

/-- The flags that every command has. Help is accepted everywhere and changes nothing. -/
def common : List Flag := [help, version]

/-- The flags of the command that explains. -/
def ofExplain : List Flag := [cwd, format, plain] ++ common

/-- The flag of a name or a letter among some flags. -/
def ofName? (flags : List Flag) (t : Text) : Option Flag :=
  flags.find? fun f => f.name == t || f.letter?.map ([·]) == some t

/-- What is expected of a flag. A format that is not named is the text format. -/
def expectation : Flag → Expectation
  | cwd => ⟨false, .text []⟩
  | format => ⟨false, .text Format.text.name⟩
  | _ => ⟨true, .switch true⟩

/-- What is expected of a name: an unknown one may have a value and is switched on without. -/
def expect (flags : List Flag) (t : Text) : Expectation :=
  ((ofName? flags t).map expectation).getD ⟨false, .switch true⟩

end Flag

/-- A wrong use of the command line. A command line without a command counts as one: the framework
answers it with a list of the commands, which is left out, so that noCommand and its text stand for
this answer and are of the library's own. -/
inductive Misuse where
  | noCommand
  | unknownCommand (name : Text)
  | unknownFlag (name : Text)
  | emptyFlag (flag : Flag)
  | emptyInput
  deriving DecidableEq, Repr

namespace Misuse

/-- A name as an option is written: a name of one unit has one dash, any other has two. -/
def dashed (name : Text) : Text :=
  if Text.units name = 1 then '-' :: name else '-' :: '-' :: name

/-- What is wrong in the use of the command line, in the words of the command framework that the
program uses. The program has no such texts of its own. -/
def message : Misuse → Text
  | noCommand => "No command given"
  | unknownCommand name => "Command \"".toList ++ name ++ "\" is not defined".toList
  | unknownFlag name =>
    "Unknown flag \"".toList ++ dashed name ++
      "\". The mentioned flag is not accepted by the command".toList
  | emptyFlag flag => "Missing value for option \"".toList ++ flag.name ++ ['\x22']
  | emptyInput => "Missing value for argument \"input\""

end Misuse

/-- The settings of a command, with the flags that the command has. -/
structure Settings where
  flags : List Flag
  made : List Setting
  deriving DecidableEq, Repr

namespace Settings

/-- The settings that some words make for a command with the given flags. -/
def ofWords (flags : List Flag) (words : List Text) : Settings :=
  ⟨flags, Setting.read (Flag.expect flags) words⟩

/-- What a flag is set to, each time it is set. -/
def values (settings : Settings) (flag : Flag) : List Given :=
  Setting.valuesBy (Flag.ofName? settings.flags · == some flag) settings.made

/-- Whether the version is asked for, in any way. -/
def asksVersion (settings : Settings) : Bool := !(settings.values .version).isEmpty

/-- Whether the last setting of a switch is on. -/
def isOn (settings : Settings) (flag : Flag) : Bool :=
  (settings.values flag).getLast? == some (.switch true)

/-- The names that are neither those of flags nor that of operands. -/
def unknownNames (settings : Settings) : List Text :=
  (settings.made.map (·.name)).filter fun name =>
    name != Setting.operandName && (Flag.ofName? settings.flags name).isNone

/-- What is wrong with the flags: an unknown one, or one that was set once and to nothing. -/
def flagMisuse? (settings : Settings) : Option Misuse :=
  match Setting.foremost? settings.unknownNames with
  | some name => some (.unknownFlag name)
  | none =>
    ([.cwd, .format].find? fun flag =>
      match settings.values flag with
      | [value] => value.isNothing
      | _ => false).map .emptyFlag

/-- The first operand, which may be absent but not empty. -/
def input (settings : Settings) : Except Misuse (Option Text) :=
  match (Setting.operands settings.made).head? with
  | none => .ok none
  | some (.text (c :: t)) => .ok (some (c :: t))
  | some _ => .error .emptyInput

/-- The directory, if one is set; the last one counts. -/
def directory (settings : Settings) : Option Text :=
  (settings.values .cwd).getLast?.map Given.toText

/-- The name of the format. Several names are no name of a format, and stand together. -/
def format (settings : Settings) : Text :=
  match settings.values .format with
  | [] => Format.text.name
  | values => List.intercalate [','] (values.map Given.toText)

end Settings

/-- A command to be run. -/
inductive Command where
  | explain (request : ExplainRequest)
  | codes
  deriving DecidableEq, Repr

namespace Command

/-- The command that explains, with some settings. An empty input is spoken of before anything
that is wrong with the flags. -/
def ofExplain (settings : Settings) : Except Misuse Command :=
  match settings.input, settings.flagMisuse? with
  | .error misuse, _ => .error misuse
  | .ok _, some misuse => .error misuse
  | .ok input, none =>
    .ok (.explain ⟨input, settings.directory, settings.format, settings.isOn .plain⟩)

/-- The command that lists the codes, which has no settings of its own. -/
def ofCodes (settings : Settings) : Except Misuse Command :=
  match settings.flagMisuse? with
  | some misuse => .error misuse
  | none => .ok .codes

variable {m : Type → Type} [Monad m]

/-- A run of a command. -/
def run (command : Command) (env : Environment m) : m Outcome :=
  match command with
  | explain request => request.run env
  | codes => return .success (Problem.codeRows.map (env.logger.line .log))

end Command

/-- What a command line asks for: the version or not, and a command or nothing else, unless
something is wrong. -/
structure Invocation where
  tellsVersion : Bool
  command : Except Misuse (Option Command)

namespace Invocation

/-- The line that tells the version. -/
def versionLine : Text := "tshint v0.1.0"

/-- A command with some settings; it is left out where they ask for the version. -/
def ofSettings (settings : Settings) (command : Except Misuse Command) : Invocation :=
  ⟨settings.asksVersion, command.map fun c => if settings.asksVersion then none else some c⟩

/-- Flags without a command, which can ask for the version alone. -/
def ofFlags (settings : Settings) : Invocation :=
  ⟨settings.asksVersion,
    match settings.flagMisuse? with
    | some misuse => .error misuse
    | none => if settings.asksVersion then .ok none else .error .noCommand⟩

/-- What the arguments of the program ask for. The commands are those of the program itself. The
help command that the framework adds to them and the list of commands that it shows where none is
named are left out, since what they print is made by the framework: help is answered here as a
command that is not defined, and a command line without a command as a misuse. -/
def ofArguments : List Text → Invocation
  | [] => ⟨false, .error .noCommand⟩
  | name :: rest =>
    if name.head? = some '-' then ofFlags (Settings.ofWords Flag.common (name :: rest))
    else if name = "explain".toList then
      let settings := Settings.ofWords Flag.ofExplain rest
      ofSettings settings (Command.ofExplain settings)
    else if name = "codes".toList then
      let settings := Settings.ofWords Flag.common rest
      ofSettings settings (Command.ofCodes settings)
    else ⟨false, .error (.unknownCommand name)⟩

variable {m : Type → Type} [Monad m]

/-- A run of what is asked for. -/
def run (invocation : Invocation) (env : Environment m) : m Outcome :=
  let told := if invocation.tellsVersion then [versionLine] else []
  match invocation.command with
  | .error misuse => return ⟨1, [env.logger.line .misuse misuse.message], told⟩
  | .ok none => return ⟨0, [], told⟩
  | .ok (some command) => command.run env

end Invocation

/-- A run of the command line. -/
def runCommandLine {m : Type → Type} [Monad m] (env : Environment m) (arguments : List Text) :
    m Outcome :=
  (Invocation.ofArguments arguments).run env

end DiagnosticHints
