import ShellFailure.Exception.Basic

/-!
# Exceptions for people

A failure is shown by a header line, its message in the error style, and below it the frames of
its traceback.  A control signal is shown in the warning style, and a failure from outside may
show itself.
-/

namespace ShellFailure

/-- A cause in its style. -/
def Cause.pretty (p : Palette) : Cause → String
  | message text => p.paint p.error text
  | flow f => f.pretty p
  | exit e => p.paint p.error e.message
  | external e =>
      match e.pretty with
      | some shown => shown
      | none => p.paint p.error e.text

namespace Exception

/-- The header line of an exception. -/
def header (p : Palette) : Exception → String
  | .succeeded _ => "ok"
  | .raised cause _ => "Exception: " ++ cause.pretty p
  | .several slots t => "Exception: " ++ p.paint p.error (message (.several slots t))

/-- The frames of a traceback, a line or more for each. -/
def prettyTraceback (p : Palette) (t : Traceback) : String :=
  String.join (t.toList.map fun frame => "\n  " ++ frame.pretty p "    ")

/-- The header of an exception and, under a failure's, its traceback. -/
def pretty (p : Palette) (e : Exception) : String :=
  if e.isOk then "ok" else e.header p ++ "\nTraceback:" ++ prettyTraceback p e.traceback

end Exception

end ShellFailure
