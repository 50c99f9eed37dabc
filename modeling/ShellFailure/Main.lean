import ShellFailure.Shell.CommandLine
import ShellFailure.Shell.MinimalHost

/-!
# The program

Looks at the world around the program, hands it to the library, and writes what comes back.  Lines
from the input are taken as they arrive.  Pipelines run on the host without processes.
-/

namespace ShellFailure.Main

open Shell

/-- Writes a piece of output on its channel. -/
def write : Output → IO Unit
  | .out text => do
      let stream ← IO.getStdout
      stream.putStr text
      stream.flush
  | .err text => do
      let stream ← IO.getStderr
      stream.putStr text
      stream.flush

/-- The bytes of a file, if it can be read. -/
def bytes? (path : String) : IO (Option ByteArray) := do
  try
    return some (← IO.FS.readBinFile path)
  catch _ => return none

/-- The text of a file, or the reason why there is none. -/
def text (path : String) : IO (Except FileError String) := do
  try
    match String.fromUTF8? (← IO.FS.readBinFile path) with
    | some text => return .ok text
    | none => return .error .notText
  catch
    | .noSuchThing .. => return .error .noDevice
    | .permissionDenied .. => return .error .permissionDenied
    | .inappropriateType (some _) .. => return .error .notDirectory
    | .inappropriateType none .. => return .error .isDirectory
    | .invalidArgument .. => return .error .nameTooLong
    | _ => return .error .notFound

/-- The directory that holds the settings of programs. -/
def settingsDirectory : IO String := do
  match ← IO.getEnv "XDG_CONFIG_HOME" with
  | some directory =>
      if directory.toList.head? = some '/' then return directory
  | none => pure ()
  return ((← IO.getEnv "HOME").getD "") ++ "/.config"

/-- Takes the lines of the input one by one, until one ends the session or they are over. -/
partial def converse (host : Host) (s : Session) : IO Unit := do
  let line ← (← IO.getStdin).getLine
  if line.isEmpty then write (.out farewell)
  else
    let line := typedLine ((linesOf line.toList).headD [])
    let (step, s) := s.process host line
    (Session.written host line ++ step.outputs).forM write
    unless step = .quit do converse host s

end ShellFailure.Main

open ShellFailure Shell Main in
/-- Calls the program with the arguments. -/
def main (arguments : List String) : IO UInt32 := do
  let settingsPath := Settings.path (← settingsDirectory)
  let script ← match Invocation.ofArguments arguments with
    | .ok (.script path) => text path
    | _ => pure (.error .notFound)
  let w : Surroundings :=
    { host := .minimal []
      settingsPath
      settingsFile := ← bytes? settingsPath
      noColor := ← IO.getEnv "NO_COLOR"
      terminal := ← (← IO.getStderr).isTty
      fileText := fun _ => script
      input := "" }
  match Invocation.ofArguments arguments, w.reporter with
  | .ok .interactive, .ok reporter => do
      write (.out banner)
      converse w.host (.start reporter)
      return 0
  | _, _ => do
      let transcript := program w arguments
      transcript.outputs.forM write
      return transcript.code.toUInt32
