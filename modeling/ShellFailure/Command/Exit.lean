import ShellFailure.Command.Signal
import ShellFailure.Command.WaitStatus
import ShellFailure.Quote

/-!
# Commands that failed

An external command that did not end well: its status, its name, and the process it ran as when
that process still exists.  `decode` makes one from a status, unless the status says that the
command succeeded; `message` describes it and `exitCode` is the code a shell would report.
-/

namespace ShellFailure

/-- The end of an external command. -/
structure CommandExit where
  status : WaitStatus
  command : String
  /-- The process of a command that was stopped, and zero for any other. -/
  process : Nat
  deriving DecidableEq, Repr

namespace CommandExit

/-- The failure that a status describes; a clean exit is none. -/
def decode (command : String) (status : WaitStatus) (process : Nat) : Option CommandExit :=
  if status.exitCode? = some 0 then none
  else some ⟨status, command, if status.isStopped then process else 0⟩

/-- The end of a command that never ran, made up from a code and a signal.  Success is kept. -/
def fake (command : String) (code signal : Int32) : CommandExit :=
  ⟨.ofParts code signal, command, 0⟩

/-- The exit code a shell reports: the command's own, or 128 more than the signal's number. -/
def exitCode (e : CommandExit) : Nat :=
  match e.status.ending with
  | .exited code => code
  | .signaled signal _ => 128 + signal
  | .stopped signal _ => 128 + signal
  | .unknown => 1

/-- The description of how the command ended. -/
def message (e : CommandExit) : String :=
  quote e.command ++
    match e.status.ending with
    | .exited code => " exited with " ++ Text.decimal code
    | .signaled signal coreDumped =>
        " killed by signal " ++ signalName signal ++ if coreDumped then " (core dumped)" else ""
    | .stopped signal cause =>
        " stopped by signal " ++ signalName signal ++
          " (pid=" ++ Text.decimal e.process ++ ")" ++
          match cause with
          | some n => " (trapped " ++ Text.decimal n ++ ")"
          | none => ""
    | .unknown => " has unknown WaitStatus " ++ Text.signedDecimal e.status.raw.toInt

end CommandExit

end ShellFailure
