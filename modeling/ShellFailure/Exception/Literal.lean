import ShellFailure.Exception.Basic

/-!
# Exceptions as literals

The literal of an exception is a text of the shell that stands for it: `$ok`, a form with a
message, a form with the name of a control signal, or a form with a literal for every slot of a
pipeline.  At indent zero the slots of a pipeline follow on one line, at any other indent each
slot stands on a line of its own.  The literals of the slots are written at the indent at which
they stand.  Tracebacks are left out.
-/

namespace ShellFailure

/-- A message as a literal. -/
def messageLiteral (text : String) : String := "?(error " ++ quote text ++ ")"

/-- A cause as a literal at an indent. -/
def Cause.literal (indent : Nat) : Cause → String
  | message text => messageLiteral text
  | flow f => f.literal
  | exit e => messageLiteral e.message
  | external e =>
      match e.literal with
      | some written => written indent
      | none => messageLiteral e.text

/-- The width of the head of a pipeline's form and the blank after it. -/
def slotIndent : Nat := 14

/-- What stands before a slot of a pipeline at an indent. -/
def slotSeparator (indent : Nat) : String :=
  if indent = 0 then " "
  else "\n" ++ String.ofList (List.replicate (indent + slotIndent) ' ')

namespace Exception

mutual

/-- An exception as a literal at an indent. -/
def literal (indent : Nat) : Exception → String
  | .succeeded _ => "$ok"
  | .raised cause _ => cause.literal indent
  | .several slots _ => "?(multi-error" ++ slotLiterals indent slots ++ ")"

/-- The literals of a pipeline's slots, each after its separator. -/
def slotLiterals (indent : Nat) : List Exception → String
  | [] => ""
  | e :: es =>
      slotSeparator indent ++ literal (indent + slotIndent) e ++ slotLiterals indent es

end

end Exception

end ShellFailure
