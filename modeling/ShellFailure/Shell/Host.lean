import ShellFailure.Pipeline
import ShellFailure.Shell.Files
import ShellFailure.Shell.Output

/-!
# The programs of a host

A host runs a program with its arguments.  What comes of it is what the program writes, and how it
ends: with a status, with a reason why the program could not be run, or with a panic of the task
that was to run it.
-/

namespace ShellFailure.Shell

/-- How running a program ended. -/
inductive ProgramEnd
  /-- A process ended with a status. -/
  | reaped (status : WaitStatus) (process : Nat)
  /-- The program could not be run. -/
  | refused (reason : String)
  /-- The task that was to run it panicked, with the text of the task's error. -/
  | panic (error : String)

/-- What comes of running a program. -/
structure ProgramRun where
  outputs : List Output
  ending : ProgramEnd

/-- What comes of running, as the stage at a position, a program with its arguments.  The same
program may end one way at one position and another way at another. -/
abbrev Host := Nat → String → List String → ProgramRun

/-- The message of a program that could not be run. -/
def refusalMessage (program reason : String) : String := quote program ++ ": " ++ reason

namespace ProgramEnd

/-- The end of a program as the end of a stage. -/
def toStageEnd (program : String) : ProgramEnd → StageEnd
  | reaped status process => .outcome (.reaped status process)
  | refused reason => .outcome (.failed (.ofMessage (refusalMessage program reason)))
  | panic error => .panic error

variable {program : String} {e : ProgramEnd}

/-- A process keeps its status and its number. -/
theorem toStageEnd_eq_reaped_iff {status : WaitStatus} {process : Nat} :
    e.toStageEnd program = .outcome (.reaped status process) ↔ e = .reaped status process := by
  cases e <;> simp [toStageEnd]

/-- A stage fails on its own terms when its program could not be run, and says which and why. -/
theorem toStageEnd_eq_failed_iff {f : Exception} :
    e.toStageEnd program = .outcome (.failed f) ↔
      ∃ reason, e = .refused reason ∧ f = .ofMessage (quote program ++ ": " ++ reason) := by
  cases e <;> simp [toStageEnd, refusalMessage, eq_comm]

theorem toStageEnd_eq_panic_iff {error : String} :
    e.toStageEnd program = .panic error ↔ e = .panic error := by
  cases e <;> simp [toStageEnd]

/-- No stage that runs a program ends without a status. -/
theorem toStageEnd_ne_success : e.toStageEnd program ≠ .outcome .success := by
  cases e <;> simp [toStageEnd]

end ProgramEnd

end ShellFailure.Shell
