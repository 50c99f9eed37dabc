import ShellFailure.Shell.Utilities.Script.Token
import ShellFailure.Shell.Utilities.Small
import ShellFailure.Text.Words

/-!
# Shell scripts

The scripts that a shell is given: simple commands in a row, of which some run only when the one
before them succeeded, or failed.  A line is understood as a whole (`scriptLinesFrom`) before its
commands run one after the other (`ScriptShell.runLines`).  The shell itself is called with a
script, with a file that holds one, or with neither (`shell`).
-/

namespace ShellFailure.Shell.Utilities

open Text

/-! ## Commands -/

/-- When a command of a script runs. -/
inductive Condition
  | always
  | afterSuccess
  | afterFailure
  deriving DecidableEq, Repr

/-- Does a command run after one with a code? -/
def Condition.holds (last : Nat) : Condition → Bool
  | always => true
  | afterSuccess => last = 0
  | afterFailure => last ≠ 0

/-- A command of a script. -/
structure ScriptCommand where
  line : Nat
  condition : Condition
  words : List (List WordPart)
  /-- Does what it writes go where errors are written? -/
  toErrors : Bool
  deriving DecidableEq, Repr

/-- What is wrong with a script, and on which line. -/
structure ScriptFault where
  line : Nat
  message : String
  deriving DecidableEq, Repr

/-- A line of a script. -/
abbrev ScriptLine := Except ScriptFault (List ScriptCommand)

/-- The start of a command. -/
def ScriptCommand.start (line : Nat) (condition : Condition) : ScriptCommand :=
  ⟨line, condition, [], false⟩

/-- A token that does not fit where it is. -/
def unexpected (line : Nat) (token : String) : ScriptFault :=
  ⟨line, "Syntax error: " ++ token ++ " unexpected"⟩

/-- The lines of a script from some tokens on, given the commands of the first line so far and the
command that has begun. -/
def scriptLinesFrom (before : List ScriptCommand) (command : ScriptCommand) :
    List PlacedToken → List ScriptLine
  | [] =>
      if command.words ≠ [] then [.ok (before ++ [command])]
      else if command.condition = .always then [.ok before]
      else [.error (unexpected command.line "end of file")]
  | (line, token) :: tokens =>
      let next := fun (sign : String) (condition : Condition) =>
        if command.words = [] then [.error (unexpected line ("\"" ++ sign ++ "\""))]
        else scriptLinesFrom (before ++ [command]) (.start line condition) tokens
      match token with
      | .word parts =>
          scriptLinesFrom before { command with words := command.words ++ [parts] } tokens
      | .toErrors => scriptLinesFrom before { command with toErrors := true } tokens
      | .semicolon => next ";" .always
      | .ifSuccess => next "&&" .afterSuccess
      | .ifFailure => next "||" .afterFailure
      | .doubleSemicolon => [.error (unexpected line "\";;\"")]
      | .unterminated => [.error ⟨line, "Syntax error: Unterminated quoted string"⟩]
      | .newline =>
          if command.words ≠ [] then
            .ok (before ++ [command]) :: scriptLinesFrom [] (.start (line + 1) .always) tokens
          else if command.condition = .always then
            .ok before :: scriptLinesFrom [] (.start (line + 1) .always) tokens
          else scriptLinesFrom before { command with line := line + 1 } tokens

/-- The lines of a script. -/
def scriptLines (script : String) : List ScriptLine :=
  scriptLinesFrom [] (.start 1 .always) (tokens script)

/-! ## Running -/

/-- How a command ends. -/
inductive CommandEnd
  /-- The script goes on, given a code. -/
  | goOn (code : Nat)
  /-- The script is over. -/
  | leave (code : Nat)
  /-- A signal ends the script. -/
  | signaled (signal : Nat)
  deriving DecidableEq, Repr

/-- A shell that runs a script. -/
structure ScriptShell where
  /-- What it calls itself. -/
  name : String
  operands : List String
  /-- The programs that it can run. -/
  programs : String → List String → Except FileError ProgramRun

/-- The number of the process of a shell. -/
def shellProcess : Nat := 1

/-- The value of a parameter. -/
def ScriptShell.value (sh : ScriptShell) (last : Nat) : Parameter → String
  | .status => decimal last
  | .process => decimal shellProcess
  | .count => decimal sh.operands.length
  | .operand 0 => sh.name
  | .operand (n + 1) => sh.operands.getD n ""

/-- The text of a part of a word. -/
def ScriptShell.partText (sh : ScriptShell) (last : Nat) : WordPart → String
  | .char c => String.singleton c
  | .parameter p => sh.value last p
  | .mark => ""

/-- The text of a word.  A word of parameters alone is not there when they are empty. -/
def ScriptShell.wordText? (sh : ScriptShell) (last : Nat) (word : List WordPart) : Option String :=
  let text := String.join (word.map (sh.partText last))
  if text = "" ∧ ! word.contains .mark then none else some text

/-- A line that the shell writes about itself. -/
def ScriptShell.complaint (sh : ScriptShell) (line : Nat) (message : String) : Output :=
  .errLine (sh.name ++ ": " ++ decimal line ++ ": " ++ message)

/-- The code that an operand stands for, which is not negative. -/
def leavingCode? (operand : String) : Option Nat :=
  match readInteger .signed32 (String.ofList (trim operand.toList)) with
  | .ok (.ofNat n) => some (n % 256)
  | .ok (.negSucc _) | .error _ => none

/-- The names of the signals, from the first one on. -/
def signalNames : List String :=
  ["HUP", "INT", "QUIT", "ILL", "TRAP", "ABRT", "BUS", "FPE", "KILL", "USR1", "SEGV", "USR2",
   "PIPE", "ALRM", "TERM", "STKFLT", "CHLD", "CONT", "STOP", "TSTP", "TTIN", "TTOU", "URG", "XCPU",
   "XFSZ", "VTALRM", "PROF", "WINCH", "IO", "PWR", "SYS"]

/-- The signals that a shell does not end from: those that are ignored, and those that stop. -/
def harmlessSignals : List Nat := [0, 17, 18, 19, 20, 21, 22, 23, 28]

/-- The signal that a name or a number stands for. -/
def signalOf? (name : String) : Option Nat :=
  match signalNames.idxOf? name.toUpper with
  | some n => some (n + 1)
  | none =>
      match readInteger ⟨0, 31⟩ name with
      | .ok n => some n.toNat
      | .error _ => none

/-- The signal that arguments send to the shell itself. -/
def signalSent? : List String → Option Nat
  | ["-s", name, process] => if process = decimal shellProcess then signalOf? name else none
  | [option, process] =>
      match option.toList with
      | '-' :: name =>
          if process = decimal shellProcess then signalOf? (String.ofList name) else none
      | _ => none
  | [process] => if process = decimal shellProcess then signalOf? "TERM" else none
  | _ => none

/-- The code of a process that ended. -/
def ProgramEnd.code : ProgramEnd → Nat
  | .reaped status _ =>
      match status.ending with
      | .exited code => code
      | .signaled signal _ => 128 + signal
      | .stopped .. | .unknown => 0
  | .refused _ | .panic _ => 126

/-- Runs a program for a script. -/
def ScriptShell.runProgram (sh : ScriptShell) (line : Nat) (name : String)
    (arguments : List String) : List Output × CommandEnd :=
  match sh.programs name arguments with
  | .ok run => (run.outputs, .goOn (ProgramEnd.code run.ending))
  | .error .notFound | .error .notDirectory =>
      ([sh.complaint line (name ++ ": not found")], .goOn 127)
  | .error e => ([sh.complaint line (name ++ ": " ++ e.description.1)], .goOn 126)

/-- Runs a command of a script, given the code of the last one. -/
def ScriptShell.runWords (sh : ScriptShell) (last line : Nat) :
    List String → List Output × CommandEnd
  | [] => ([], .goOn last)
  | ["exit"] => ([], .leave last)
  | "exit" :: operand :: _ =>
      match leavingCode? operand with
      | some code => ([], .leave code)
      | none => ([sh.complaint line ("exit: Illegal number: " ++ operand)], .leave 2)
  | ":" :: _ | "true" :: _ => ([], .goOn 0)
  | "false" :: _ => ([], .goOn 1)
  | "echo" :: "-n" :: arguments => ([echoLine false true arguments], .goOn 0)
  | "echo" :: arguments => ([echoLine true true arguments], .goOn 0)
  | "kill" :: arguments =>
      match signalSent? arguments with
      | some signal =>
          ([], if harmlessSignals.contains signal then .goOn 0 else .signaled signal)
      | none => ([], .goOn 1)
  | name :: arguments => sh.runProgram line name arguments

/-- Output that all goes where errors are written. -/
def redirected : Output → Output
  | .out text | .err text => .err text

/-- Runs the commands of a line, given the code of the last command. -/
def ScriptShell.runLine (sh : ScriptShell) (last : Nat) :
    List ScriptCommand → List Output × CommandEnd
  | [] => ([], .goOn last)
  | command :: commands =>
      if command.condition.holds last then
        let (outputs, ending) :=
          sh.runWords last command.line (command.words.filterMap (sh.wordText? last))
        let outputs := if command.toErrors then outputs.map redirected else outputs
        match ending with
        | .goOn code =>
            let (more, ending) := sh.runLine code commands
            (outputs ++ more, ending)
        | ending => (outputs, ending)
      else sh.runLine last commands

/-- Runs the lines of a script, given the code of the last command. -/
def ScriptShell.runLines (sh : ScriptShell) (last : Nat) : List ScriptLine → ProgramRun
  | [] => exited last []
  | .error fault :: _ => exited 2 [sh.complaint fault.line fault.message]
  | .ok commands :: lines =>
      match sh.runLine last commands with
      | (outputs, .goOn code) =>
          let run := sh.runLines code lines
          { run with outputs := outputs ++ run.outputs }
      | (outputs, .leave code) => exited code outputs
      | (outputs, .signaled signal) => killed signal outputs

/-! ## The shell -/

/-- The options of the shell, all of them letters. -/
def shellLetters : List Char :=
  ['a', 'b', 'c', 'C', 'e', 'E', 'f', 'i', 'I', 'l', 'm', 'n', 's', 'u', 'v', 'V', 'x']

/-- Whether the first of the shell's operands is a script, and the operands; or the letter that is
no option. -/
def shellArguments (script : Bool) : List String → Except Char (Bool × List String)
  | [] => .ok (script, [])
  | argument :: arguments =>
      match argument.toList with
      | ['-'] | ['-', '-'] => .ok (script, arguments)
      | sign :: letters =>
          if sign = '-' ∨ sign = '+' then
            match letters.find? (! shellLetters.contains ·) with
            | some letter => .error letter
            | none => shellArguments (script || (sign = '-' && letters.contains 'c')) arguments
          else .ok (script, argument :: arguments)
      | [] => .ok (script, argument :: arguments)

/-- A run that the shell ends before a script has begun. -/
def shellRefusal (name message : String) : ProgramRun :=
  exited 2 [.errLine (name ++ ": 0: " ++ message)]

/-- Runs a shell by the name it was called by. -/
def shell (fs : FileSystem) (programs : String → List String → Except FileError ProgramRun)
    (name : String) (arguments : List String) : ProgramRun :=
  match shellArguments false arguments with
  | .error letter => shellRefusal name ("Illegal option -" ++ String.singleton (shownLetter letter))
  | .ok (true, []) => shellRefusal name "-c requires an argument"
  | .ok (true, script :: operands) =>
      (ScriptShell.mk (operands.headD name) operands.tail programs).runLines 0 (scriptLines script)
  | .ok (false, []) => (ScriptShell.mk name [] programs).runLines 0 (scriptLines fs.input)
  | .ok (false, path :: operands) =>
      match fs.text path with
      | .ok script => (ScriptShell.mk path operands programs).runLines 0 (scriptLines script)
      | .error .isDirectory => exited 0 []
      | .error _ => shellRefusal name ("cannot open " ++ path ++ ": No such file")

end ShellFailure.Shell.Utilities
