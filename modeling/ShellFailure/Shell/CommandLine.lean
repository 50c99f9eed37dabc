import ShellFailure.Shell.Session
import ShellFailure.Shell.TypedLine

/-!
# The command line

The program is called with arguments and does one thing: it describes itself, carries out a
one-shot command, runs one pipeline, runs a script, or takes lines until they end.  What it writes
is a list of outputs, each for one of two channels, and it ends with a code.
-/

namespace ShellFailure.Shell

open Text

/-! ## What is asked for -/

/-- What the arguments ask for. -/
inductive Invocation
  | interactive
  | help
  | version
  | decode (status command : String) (process : Option String)
  | fake (command code : String) (signal : Option String)
  | read (literal : String)
  | run (arguments : List String)
  | script (path : String)
  | unknownOption (option : String)
  deriving DecidableEq, Repr

/-- What the arguments ask for.  Arguments after those that a command takes are passed over. -/
def Invocation.ofArguments : List String → Except Error Invocation
  | [] => .ok .interactive
  | "--help" :: _ => .ok .help
  | "-h" :: _ => .ok .help
  | "--version" :: _ => .ok .version
  | "-V" :: _ => .ok .version
  | "decode" :: status :: command :: more => .ok (.decode status command more.head?)
  | ["decode", _] => .error (.missingArgument "decode" "a command name")
  | ["decode"] => .error (.missingArgument "decode" "a wait status")
  | "fake" :: command :: code :: more => .ok (.fake command code more.head?)
  | ["fake", _] => .error (.missingArgument "fake" "an exit code")
  | ["fake"] => .error (.missingArgument "fake" "a command name")
  | "read" :: literal :: _ => .ok (.read literal)
  | ["read"] => .error (.missingArgument "read" "a literal")
  | "run" :: arguments => .ok (.run arguments)
  | argument :: _ =>
      if argument.toList.head? = some '-' then .ok (.unknownOption argument)
      else .ok (.script argument)

/-! ## What is written -/

/-- What the program wrote, and whether it succeeded. -/
structure Transcript where
  outputs : List Output
  success : Bool
  deriving DecidableEq, Repr

/-- The code that the program ends with. -/
def Transcript.code (t : Transcript) : Nat := if t.success then 0 else 1

theorem Transcript.code_eq_zero_iff (t : Transcript) : t.code = 0 ↔ t.success = true := by
  unfold code
  cases t.success with
  | true => simp
  | false => simp

namespace Step

/-- What is written for a step of a session. -/
def outputs : Step → List Output
  | proceed none => []
  | proceed (some text) => [.outLine text]
  | report text => [.errLine text]
  | quit => []

@[simp] theorem outputs_proceed_none : (proceed none).outputs = [] := rfl

@[simp] theorem outputs_proceed_some (text : String) :
    (proceed (some text)).outputs = [.out (text ++ "\n")] := rfl

@[simp] theorem outputs_report (text : String) :
    (report text).outputs = [.err (text ++ "\n")] := rfl

@[simp] theorem outputs_quit : quit.outputs = [] := rfl

end Step

/-! ## Lines -/

/-- The lines of a text.  A line ends with a line feed, or with a carriage return and a line feed;
the last line may go without. -/
def linesOf : List Char → List (List Char)
  | [] => []
  | '\n' :: cs => [] :: linesOf cs
  | '\r' :: '\n' :: cs => [] :: linesOf cs
  | c :: cs =>
      match linesOf cs with
      | [] => [[c]]
      | line :: lines => (c :: line) :: lines

/-- What has come of some lines: the session, and whether a line ended it. -/
structure Progress where
  outputs : List Output
  session : Session
  quit : Bool

/-- Takes lines one after the other, up to the first that ends the session.  What programs write
comes before what the session says. -/
def takeLines (host : Host) (s : Session) : List String → Progress
  | [] => ⟨[], s, false⟩
  | line :: lines =>
      match s.process host line with
      | (.quit, s) => ⟨[], s, true⟩
      | (step, s) =>
          let rest := takeLines host s lines
          { rest with outputs := Session.written host line ++ step.outputs ++ rest.outputs }

/-- Is the line of a script a comment? -/
def isComment (line : List Char) : Bool := (trimStart line).head? = some '#'

/-- The lines of a script that are taken. -/
def scriptLines (source : String) : List String :=
  ((linesOf source.toList).filter (! isComment ·)).map String.ofList

/-- Runs a script: it succeeds when what its last pipeline raised is success. -/
def runScript (host : Host) (reporter : Reporter) (source : String) : Transcript :=
  let progress := takeLines host (.start reporter) (scriptLines source)
  ⟨progress.outputs, progress.session.last.isOk⟩

/-! ## Talking -/

/-- The name and the number of the program. -/
def versionText : String := "0.1.0"

/-- What the program says before it takes lines. -/
def banner : String :=
  "raise v" ++ versionText ++ "\nType /help for commands, /quit to exit.\n\n"

/-- What the program says when the lines are over. -/
def farewell : String := "^D\n"

/-- Takes the lines of an input that is no terminal. -/
def converse (host : Host) (reporter : Reporter) (input : String) : Transcript :=
  let progress := takeLines host (.start reporter) ((linesOf input.toList).map typedLine)
  ⟨[.out banner] ++ progress.outputs ++ (if progress.quit then [] else [.out farewell]), true⟩

/-! ## The program -/

/-- What the program finds around it. -/
structure Surroundings where
  host : Host
  /-- The path of the settings file. -/
  settingsPath : String
  /-- The bytes of the settings file, if it is there. -/
  settingsFile : Option ByteArray
  /-- The value by which the environment asks for no colour. -/
  noColor : Option String
  /-- Are reports shown on a terminal? -/
  terminal : Bool
  /-- The text of a file, or the reason why it cannot be read. -/
  fileText : String → Except FileError String
  /-- The text of the input. -/
  input : String

/-- The reporter that the settings ask for. -/
def Surroundings.reporter (w : Surroundings) : Except Error Reporter :=
  match Settings.load w.settingsFile w.noColor with
  | .ok settings => .ok (.ofSettings settings w.terminal)
  | .error cause => .error (.badSettings w.settingsPath cause)

/-- What the program says about itself. -/
def usage : String :=
  "raise v" ++ versionText ++ "\n" ++
  "\n" ++
  "Usage:\n" ++
  "  raise                                  Interactive REPL\n" ++
  "  raise run <cmd> [args] [| <cmd> ...]   Run one pipeline and report its failure\n" ++
  "  raise decode <status> <name> [pid]     Decode a raw wait status\n" ++
  "  raise fake <name> <exit> [signal]      Show a synthetic command failure\n" ++
  "  raise read <literal>                   Read an exception literal\n" ++
  "  raise <script>                         Run a file of pipelines, one per line\n" ++
  "\n" ++
  "Options:\n" ++
  "  -h, --help                             Show this help\n" ++
  "  -V, --version                          Show version\n" ++
  "\n" ++
  "Configuration:\n" ++
  "  Report settings are read from the config directory (raise/report.toml).\n" ++
  "  NO_COLOR turns color off. RUST_LOG controls logging.\n" ++
  "\n" ++
  "Examples:\n" ++
  "  raise run sh -c 'exit 3' '|' true\n" ++
  "  raise decode 9 sleep\n" ++
  "  raise read '?(multi-error $ok ?(error boom))'\n"

/-- What the program says about an option that it does not have. -/
def unknownOptionText (option : String) : String :=
  "Unknown option: " ++ option ++ "\nRun 'raise --help' for usage.\n"

/-- One line of output, and success. -/
def Transcript.line (text : String) : Transcript := ⟨[.outLine text], true⟩

/-- Runs commands as a pipeline and reports what it raises.  That succeeds when the pipeline does,
whatever becomes of the report. -/
def runReporting {m : Type → Type} [Monad m] {ε : Type} (write : String → m (Except ε Unit))
    (host : Host) (reporter : Reporter) (commands : List Command) : m Bool := do
  let e := runCommands host commands
  let _ ← reporter.report write e
  return e.isOk

/-- Takes a text as a piece of output for reports. -/
def writeReport (text : String) : StateM (List Output) (Except Empty Unit) := do
  modify (· ++ [.err text])
  return .ok ()

/-- Runs one pipeline.  Its report comes after what the programs write. -/
def runOnce (host : Host) (reporter : Reporter) (commands : List Command) : Transcript :=
  let (success, outputs) :=
    (runReporting writeReport host reporter commands).run (writtenBy host commands)
  ⟨outputs, success⟩

/-- Does what was asked for. -/
def Invocation.perform (w : Surroundings) : Invocation → Except Error Transcript
  | interactive => do return converse w.host (← w.reporter) w.input
  | help => .ok (.line usage)
  | version => .ok (.line ("raise " ++ versionText))
  | decode status command process => do return .line (← Shell.decode status command process)
  | fake command code signal => do return .line (← Shell.fake command code signal)
  | read literal => do return .line (← readLiteral (← w.reporter) literal)
  | run arguments => do
      let commands ← commandsOfArguments arguments
      return runOnce w.host (← w.reporter) commands
  | script path =>
      match w.fileText path with
      | .error cause => .error (.badScript path cause)
      | .ok source => do return runScript w.host (← w.reporter) source
  | unknownOption option => .ok ⟨[.err (unknownOptionText option)], false⟩

/-- The whole program: an error is written as its last words. -/
def program (w : Surroundings) (arguments : List String) : Transcript :=
  match (Invocation.ofArguments arguments).bind (·.perform w) with
  | .ok transcript => transcript
  | .error e => ⟨[.err e.report], false⟩

end ShellFailure.Shell
