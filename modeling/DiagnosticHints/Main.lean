import DiagnosticHints.Session.CommandLine

/-!
# The program

Hands the arguments, the standard streams and the files to the command line and writes its log.
-/

open DiagnosticHints

/-- The failure that stands for an error of the system. -/
def systemFailure (path : String) : IO.Error → Failure
  | .noFileOrDirectory _ _ _ =>
    .error ("ENOENT: no such file or directory, open '" ++ path ++ "'").toList
      (some (.text "ENOENT"))
  | e => .error (toString e).toList none

/-- The content of a file. -/
def readFile (path : Text) : IO (Except Failure Text) := do
  let name := String.ofList path
  try
    return .ok (← IO.FS.readFile name).toList
  catch e =>
    return .error (systemFailure name e)

/-- Writes what a run leaves and gives its exit code. -/
def writeOutcome (outcome : Outcome) : IO UInt32 := do
  for line in outcome.printed do
    IO.println (String.ofList line)
  for line in outcome.log do
    match line.stream with
    | .output => IO.println (String.ofList line.text)
    | .errors => IO.eprintln (String.ofList line.text)
  return outcome.exitCode.toUInt32

def main (arguments : List String) : IO UInt32 := do
  let workdir ← IO.currentDir
  let environment : Environment IO :=
    { workdir := workdir.toString.toList
      input := do return (← (← IO.getStdin).readToEnd).toList
      read := readFile
      paint := Painter.terminal }
  writeOutcome (← runCommandLine environment (arguments.map String.toList))
