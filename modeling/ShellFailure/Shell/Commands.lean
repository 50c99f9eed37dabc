import ShellFailure.Exception.Literal
import ShellFailure.Shell.Error

/-!
# One-shot commands

The commands that run nothing: describing a wait status, describing a made-up end of a command,
and reading a literal.
-/

namespace ShellFailure.Shell

open Text

/-- Reads a number given to a command. -/
def readNumber (role : NumberRole) (range : IntegerRange) (text : String) : Except Error Int :=
  match readInteger range text with
  | .ok n => .ok n
  | .error cause => .error (.badNumber role text cause)

/-- Reads a number that may be left out and is zero then. -/
def readOptional (role : NumberRole) (range : IntegerRange) : Option String → Except Error Int
  | none => .ok 0
  | some text => readNumber role range text

/-- Describes the end of a command by its wait status. -/
def decode (status command : String) (process : Option String) : Except Error String := do
  let status ← readNumber .waitStatus .signed32 status
  let process ← readOptional .process .unsigned32 process
  return match CommandExit.decode command ⟨Int32.ofInt status⟩ process.toNat with
    | some exit => exit.message
    | none => "ok"

/-- Describes the end of a command that never ran. -/
def fake (command code : String) (signal : Option String) : Except Error String := do
  let code ← readNumber .exitCode .signed32 code
  let signal ← readOptional .signal .signed32 signal
  return (CommandExit.fake command (Int32.ofInt code) (Int32.ofInt signal)).message

/-- Shows the exception of a literal: as a report with its traceback, and as a literal again. -/
def readLiteral (reporter : Reporter) (literal : String) : Except Error String :=
  match Literal.read literal with
  | .error cause => .error (.badLiteral literal cause)
  | .ok e => .ok (reporter.present (e.pretty .standard) ++ "\n" ++ e.literal 0)

end ShellFailure.Shell
