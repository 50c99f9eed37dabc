import ShellFailure.Shell.Error
import ShellFailure.Shell.Host
import ShellFailure.Text.Words

/-!
# From words to stages

The words of a line, or the arguments of a command line, make a pipeline: the word of a single bar
parts them into stages, and the words of a stage are a program and its arguments.  There is no
quoting.  Each stage has a frame that points at its words.
-/

namespace ShellFailure.Shell

open Text

/-- A program to run, and the frame of its words. -/
structure Command where
  program : String
  arguments : List String
  frame : Frame
  deriving DecidableEq, Repr

/-- The words of a command. -/
def Command.words (c : Command) : List String := c.program :: c.arguments

/-- The word that parts the stages. -/
def bar : String := "|"

/-- The groups of words between the bars, before the first and after the last. -/
def splitAtBars : List Word → List (List Word)
  | [] => [[]]
  | w :: ws =>
      if w.text = bar then [] :: splitAtBars ws
      else
        match splitAtBars ws with
        | [] => [[w]]
        | group :: groups => (w :: group) :: groups

/-- The command that a group of words of a source stands for. -/
def commandOf (name source : String) : List Word → Except Error Command
  | [] => .error .emptyStage
  | first :: rest =>
      let last := (rest.getLast?).getD first
      .ok ⟨first.text, rest.map (·.text),
        ⟨name, some ⟨source, first.span.start, last.span.stop⟩⟩⟩

/-- The commands that the words of a source stand for. -/
def commandsOf (name source : String) (ws : List Word) : Except Error (List Command) :=
  (splitAtBars ws).mapM (commandOf name source)

/-! ## Lines -/

/-- The name of a line's frames. -/
def lineName : String := "[tty]"

/-- The commands of a line. -/
def commandsOfLine (line : String) : Except Error (List Command) :=
  commandsOf lineName line (words line.toList)

/-- The region of a line without the blanks around it.  A line of blanks has it at its end. -/
def lineRegion (line : String) : Region :=
  let cs := line.toList
  let start := byteLength cs - byteLength (trimStart cs)
  ⟨line, start, max (byteLength (trimEnd cs)) start⟩

/-- The traceback of what a whole line raises. -/
def lineTraceback (line : String) : Traceback := .ofList [⟨lineName, some (lineRegion line)⟩]

/-! ## Arguments -/

/-- The name of the frames of arguments. -/
def argumentsName : String := "[args]"

/-- Adds an argument to a source and its words.  A space goes before it unless the source is still
empty. -/
def addArgument (source : String) (argument : String) : String × Word :=
  let lead := if source = "" then "" else source ++ " "
  let start := byteLength lead.toList
  (lead ++ argument, ⟨argument, ⟨start, start + byteLength argument.toList⟩⟩)

/-- The source that arguments make when they follow on some text, and their words in it. -/
def joinArguments (source : String) : List String → String × List Word
  | [] => (source, [])
  | argument :: arguments =>
      let (source, word) := addArgument source argument
      let (source, ws) := joinArguments source arguments
      (source, word :: ws)

/-- The commands of a command line's arguments, which may hold blanks. -/
def commandsOfArguments (arguments : List String) : Except Error (List Command) :=
  let (source, ws) := joinArguments "" arguments
  commandsOf argumentsName source ws

/-! ## Running -/

/-- A command as a stage on a host. -/
def Command.toStage (host : Host) (c : Command) : Stage where
  name := c.program
  context := .ofList [c.frame]
  run position := (host position c.program c.arguments).ending.toStageEnd c.program

section

variable (host : Host) (c : Command)

@[simp] theorem Command.toStage_name : (c.toStage host).name = c.program := rfl

@[simp] theorem Command.toStage_context : (c.toStage host).context = .ofList [c.frame] := rfl

/-- The host runs the program of the command with its arguments, and is told the position. -/
@[simp] theorem Command.toStage_run (position : Nat) : (c.toStage host).run position =
    (host position c.program c.arguments).ending.toStageEnd c.program := rfl

end

/-- The exception that commands raise as a pipeline on a host. -/
def runCommands (host : Host) (commands : List Command) : Exception :=
  runPipeline (commands.map (·.toStage host))

/-- What commands write as a pipeline on a host.  The stages are not joined: each writes on the
channels of the whole. -/
def writtenBy (host : Host) (commands : List Command) : List Output :=
  (commands.mapIdx fun position c => (host position c.program c.arguments).outputs).flatten

end ShellFailure.Shell
