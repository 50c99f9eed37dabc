/-!
# Output

What a program writes is a list of pieces, each for one of two channels.
-/

namespace ShellFailure.Shell

/-- A piece of output. -/
inductive Output
  /-- For what was asked. -/
  | out (text : String)
  /-- For reports and errors. -/
  | err (text : String)
  deriving DecidableEq, Repr

/-- A line of what was asked. -/
def Output.outLine (text : String) : Output := .out (text ++ "\n")

/-- A line of a report. -/
def Output.errLine (text : String) : Output := .err (text ++ "\n")

/-- The text written for what was asked. -/
def Output.outText : List Output → String
  | [] => ""
  | .out text :: outputs => text ++ outText outputs
  | .err _ :: outputs => outText outputs

/-- The text written for reports and errors. -/
def Output.errText : List Output → String
  | [] => ""
  | .out _ :: outputs => errText outputs
  | .err text :: outputs => text ++ errText outputs

theorem Output.outText_append (as bs : List Output) :
    outText (as ++ bs) = outText as ++ outText bs := by
  induction as with
  | nil => simp [outText]
  | cons a as ih => cases a <;> simp [outText, ih, String.append_assoc]

theorem Output.errText_append (as bs : List Output) :
    errText (as ++ bs) = errText as ++ errText bs := by
  induction as with
  | nil => simp [errText]
  | cons a as ih => cases a <;> simp [errText, ih, String.append_assoc]

end ShellFailure.Shell
