import ShellFailure.Literal.Reader
import ShellFailure.Settings
import ShellFailure.Shell.Files

/-!
# Errors of the shell

What can be wrong with a command given to the shell itself, as opposed to what the pipelines it
runs raise.  An error has a message and may have a cause with a message of its own.
-/

namespace ShellFailure.Shell

open Text

/-- What a number given to a command is for. -/
inductive NumberRole
  | waitStatus
  | process
  | exitCode
  | signal
  deriving DecidableEq, Repr

/-- The name of a number's role. -/
def NumberRole.name : NumberRole → String
  | waitStatus => "wait status"
  | process => "pid"
  | exitCode => "exit code"
  | signal => "signal"

/-- What is wrong with a command. -/
inductive Error
  /-- An argument that should be a number is none. -/
  | badNumber (role : NumberRole) (text : String) (cause : NumeralError)
  /-- A literal cannot be read. -/
  | badLiteral (literal : String) (cause : Literal.ReadError)
  /-- There is no word between two bars, or before the first or after the last. -/
  | emptyStage
  /-- A command of the session has too few or too many arguments. -/
  | argumentCount (command : String)
  /-- There is no such command of the session. -/
  | unknownCommand (command : String)
  /-- A command of the command line lacks an argument. -/
  | missingArgument (command argument : String)
  /-- A script cannot be read. -/
  | badScript (path : String) (cause : FileError)
  /-- The settings file at a path cannot be used. -/
  | badSettings (path : String) (cause : SettingsError)
  /-- The bytes of a report are no text. -/
  | reportNotText

namespace Error

/-- What an error says. -/
def message : Error → String
  | badNumber role text _ => "invalid " ++ role.name ++ ": " ++ text
  | badLiteral literal _ => "cannot read " ++ legible literal
  | emptyStage => "empty pipeline stage"
  | argumentCount command => "wrong number of arguments to /" ++ command
  | unknownCommand command => "unknown command /" ++ command ++ ", try /help"
  | missingArgument command argument => command ++ " requires " ++ argument
  | badScript path _ => "Failed to read script: " ++ path
  | badSettings path cause => cause.message path
  | reportNotText => "report is not UTF-8"

/-- What the cause of an error says, when it has one. -/
def causeMessage? : Error → Option String
  | badNumber _ _ cause => some cause.message
  | badLiteral _ cause => some cause.message
  | badScript _ cause => some cause.message
  | _ => none

/-- An error and its cause in one line. -/
def line (e : Error) : String :=
  match e.causeMessage? with
  | some cause => e.message ++ ": " ++ cause
  | none => e.message

/-- An error and its cause as the last words of the program. -/
def report (e : Error) : String :=
  "Error: " ++ e.message ++ "\n" ++
    match e.causeMessage? with
    | some cause => "\nCaused by:\n    " ++ cause ++ "\n"
    | none => ""

end Error

end ShellFailure.Shell
