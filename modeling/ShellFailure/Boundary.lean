import ShellFailure.Exception.Basic

/-!
# Where control signals stop

A control signal travels as an exception until it reaches the construct it is meant for: a loop
stops the signals that leave it or go on with it, a function stops the signal that leaves it.  What
passes every boundary arrives at the top level, where a policy says whether stray signals are
shown.
-/

namespace ShellFailure

/-- What a loop does after a round. -/
inductive LoopStep
  /-- The exception is none of the loop's business. -/
  | next (e : Exception)
  /-- The loop ends. -/
  | leave
  /-- The loop begins its next round. -/
  | again

/-- The boundary of a loop's body. -/
def loopBoundary (e : Exception) : LoopStep :=
  match e.flow? with
  | some .breaks => .leave
  | some .continues => .again
  | _ => .next e

/-- The boundary of a function's body. -/
def functionBoundary (e : Exception) : Exception :=
  match e.flow? with
  | some .returns => .ok
  | _ => e

/-- What becomes of a control signal that passed every boundary. -/
inductive EscapePolicy
  /-- It is shown like a failure. -/
  | report
  /-- It is dropped. -/
  | absorb
  deriving DecidableEq, Repr

/-- The exception that is shown at the top level, if there is one. -/
def topLevel (policy : EscapePolicy) (e : Exception) : Option Exception :=
  if e.isOk then none
  else if e.flow?.isSome ∧ policy = .absorb then none
  else some e

end ShellFailure
