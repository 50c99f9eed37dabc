/-!
# Wait statuses

The word that waiting for a process yields, a signed integer of 32 bits.  Its lowest seven bits
hold the signal that killed the process, zero when it exited, or all ones when it did not end; the
eighth bit tells of a core dump, the next eight bits hold the exit code or the stopping signal,
and the upper half the event of a traced stop.  `WaitStatus.ending` says which of the four ways of
ending a word describes.
-/

namespace ShellFailure

/-- The status word of a process. -/
structure WaitStatus where
  raw : Int32
  deriving DecidableEq, Repr

/-- How a process ended, or why it was reported. -/
inductive Ending
  /-- It left with a code. -/
  | exited (code : Nat)
  /-- A signal killed it, with or without a core dump. -/
  | signaled (signal : Nat) (coreDumped : Bool)
  /-- A signal stopped it; a trap has a cause. -/
  | stopped (signal : Nat) (cause : Option Nat)
  /-- None of these. -/
  | unknown
  deriving DecidableEq, Repr

namespace WaitStatus

/-- The word as an unsigned number. -/
def bits (s : WaitStatus) : Nat := s.raw.toUInt32.toNat

/-- The seven bits of the killing signal. -/
def signalField (s : WaitStatus) : Nat := s.bits % 128

/-- The bit of a core dump. -/
def coreBit (s : WaitStatus) : Bool := s.bits / 128 % 2 = 1

/-- The eight bits of the exit code or the stopping signal. -/
def codeField (s : WaitStatus) : Nat := s.bits / 256 % 256

/-- The upper half of the word. -/
def causeField (s : WaitStatus) : Nat := s.bits / 65536

/-- The number of the trap signal, whose stops carry a cause. -/
def trapSignal : Nat := 5

/-- A status made up from a code and a signal, added up as the word has them and wrapping where
they do not fit. -/
def ofParts (code signal : Int32) : WaitStatus := ⟨code * 256 + signal⟩

/-! ## Reading the fields -/

/-- Did the process exit? -/
def isExited (s : WaitStatus) : Bool := s.signalField = 0

/-- Was the process killed by a signal? -/
def isSignaled (s : WaitStatus) : Bool := s.signalField ≠ 0 ∧ s.signalField ≠ 127

/-- Was the process stopped? -/
def isStopped (s : WaitStatus) : Bool := s.signalField = 127 ∧ ¬ s.coreBit

/-- Was the process continued?  One word alone says so. -/
def isContinued (s : WaitStatus) : Bool := s.bits = 65535

/-- The code of a process that exited. -/
def exitCode? (s : WaitStatus) : Option Nat := if s.isExited then some s.codeField else none

/-- The signal that killed a process. -/
def signal? (s : WaitStatus) : Option Nat := if s.isSignaled then some s.signalField else none

/-- Was the process killed with a core dump? -/
def isCoreDumped (s : WaitStatus) : Bool := s.isSignaled && s.coreBit

/-- The signal that stopped a process. -/
def stopSignal? (s : WaitStatus) : Option Nat := if s.isStopped then some s.codeField else none

/-- The cause of a stop by the trap signal. -/
def trapCause? (s : WaitStatus) : Option Nat :=
  if s.stopSignal? = some trapSignal then some s.causeField else none

/-- How the process ended. -/
def ending (s : WaitStatus) : Ending :=
  match s.exitCode?, s.signal?, s.stopSignal? with
  | some code, _, _ => .exited code
  | none, some signal, _ => .signaled signal s.isCoreDumped
  | none, none, some signal => .stopped signal s.trapCause?
  | none, none, none => .unknown

end WaitStatus

end ShellFailure
