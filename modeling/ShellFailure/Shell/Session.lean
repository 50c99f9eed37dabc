import ShellFailure.Shell.Commands
import ShellFailure.Shell.Stages

/-!
# Sessions

A session takes one line after the other.  A line is blank, a command of the session (which begins
with a slash), or a pipeline to run.  The session remembers what the last pipeline raised.

`Session.attempt` takes a line and may fail, as a report goes through a buffer of bytes; because it
never does (`Session.isSome_attempt`), there is always a step for `Session.process` to give.
-/

namespace ShellFailure.Shell

open Text

/-- A session. -/
structure Session where
  reporter : Reporter
  /-- What the last pipeline raised. -/
  last : Exception

/-- What comes of a line. -/
inductive Step
  /-- The session goes on, after some output if there is any. -/
  | proceed (output : Option String)
  /-- The session goes on after the report of a failure. -/
  | report (text : String)
  /-- The session ends. -/
  | quit
  deriving DecidableEq, Repr

/-- The answer to a request for help. -/
def helpText : String :=
  "Enter a pipeline to run it: cmd args | cmd args ...\n" ++
  "\n" ++
  "Meta-commands:\n" ++
  "  /help                       Show this help\n" ++
  "  /quit                       Exit the REPL\n" ++
  "  /last                       Show the last pipeline's exception as a literal\n" ++
  "  /read <literal>             Read an exception literal and show it\n" ++
  "  /decode <status> <name> [pid]\n" ++
  "                              Decode a raw wait status\n" ++
  "  /fake <name> <exit> [sig]   Show a synthetic command failure"

namespace Session

/-- A session in which nothing has run. -/
def start (reporter : Reporter) : Session := ⟨reporter, .ok⟩

/-- The argument of a command that takes the rest of its line: what follows on the command's word
when the text begins with that word, and otherwise nothing. -/
def argumentAfter (command : String) (cs : List Char) : String :=
  String.ofList (trim ((command.toList.isPrefixOf? cs).getD []))

/-- What a command of the session shows. -/
def answer (s : Session) (cs : List Char) (command : String) (arguments : List String) :
    Except Error String :=
  match command, arguments with
  | "help", _ => .ok helpText
  | "h", _ => .ok helpText
  | "?", _ => .ok helpText
  | "last", _ => .ok (s.last.literal 0)
  | "read", _ => readLiteral s.reporter (argumentAfter command cs)
  | "decode", [status, name] => decode status name none
  | "decode", [status, name, process] => decode status name (some process)
  | "fake", [name, code] => fake name code none
  | "fake", [name, code, signal] => fake name code (some signal)
  | "decode", _ => .error (.argumentCount command)
  | "fake", _ => .error (.argumentCount command)
  | _, _ => .error (.unknownCommand command)

/-- The words that end a session. -/
def quitWords : List String := ["quit", "exit", "q"]

/-- Carries out a command of the session, given without its slash. -/
def command (s : Session) (cs : List Char) : Step :=
  let ws := (words cs).map (·.text)
  let command := ws.headD ""
  if command ∈ quitWords then .quit
  else
    .proceed <| some <|
      match s.answer cs command ws.tail with
      | .ok text => text
      | .error e => "Error: " ++ e.line

/-- What a line of words raises on a host.  Whatever the failure, its traceback is the line. -/
def raised (host : Host) (line : String) : Exception :=
  let e := match commandsOfLine line with
    | .ok commands => runCommands host commands
    | .error e => .ofMessage e.line
  if e.isOk then e else e.withTraceback (lineTraceback line)

/-- What the programs write that a line runs on a host. -/
def written (host : Host) (line : String) : List Output :=
  match trim line.toList with
  | [] => []
  | '/' :: _ => []
  | _ =>
      match commandsOfLine line with
      | .ok commands => writtenBy host commands
      | .error _ => []

/-- Takes a text into a buffer of bytes, which has room for any. -/
def writeToBuffer (text : String) : StateM ByteArray (Except Empty Unit) := do
  modify (· ++ text.toUTF8)
  return .ok ()

/-- Reports what a pipeline raised.  The report is written to a buffer, and what the session shows
is the text in the buffer without the blanks at its end. -/
def report (reporter : Reporter) (e : Exception) : Except Error Step :=
  let (shown, bytes) := (reporter.report writeToBuffer e).run .empty
  if shown then
    match String.fromUTF8? bytes with
    | some text => .ok (.report (String.ofList (trimEnd text.toList)))
    | none => .error .reportNotText
  else .ok (.proceed none)

/-- What is written to a buffer is a text. -/
theorem fromUTF8?_toUTF8 (text : String) : String.fromUTF8? text.toUTF8 = some text := by
  rw [String.fromUTF8?]
  exact dif_pos text.isValidUTF8

/-- The report of what is shown of an exception: it is never lost. -/
theorem report_eq (reporter : Reporter) (e : Exception) :
    report reporter e = .ok (match reporter.render e with
      | none => .proceed none
      | some text => .report (String.ofList (trimEnd (text ++ "\n").toList))) := by
  unfold report Reporter.report
  cases reporter.render e with
  | none => rfl
  | some text =>
      change (match String.fromUTF8? (ByteArray.empty ++ (text ++ "\n").toUTF8) with
        | some text => _
        | none => _) = _
      rw [ByteArray.empty_append, fromUTF8?_toUTF8]

/-- Takes a line, and fails if what it raises cannot be reported.  What it raises is remembered
before that. -/
def attempt (host : Host) (s : Session) (line : String) : Except Error Step × Session :=
  match trim line.toList with
  | [] => (.ok (.proceed none), s)
  | '/' :: cs => (.ok (s.command cs), s)
  | _ =>
      let e := raised host line
      (report s.reporter e, { s with last := e })

/-- Every line can be taken. -/
theorem isSome_attempt (host : Host) (s : Session) (line : String) :
    (s.attempt host line).1.toOption.isSome = true := by
  unfold attempt
  split
  · rfl
  · rfl
  · change (report s.reporter (raised host line)).toOption.isSome = true
    rw [report_eq]
    rfl

/-- Takes a line. -/
def process (host : Host) (s : Session) (line : String) : Step × Session :=
  let taken := s.attempt host line
  (taken.1.toOption.get (s.isSome_attempt host line), taken.2)

end Session

end ShellFailure.Shell
