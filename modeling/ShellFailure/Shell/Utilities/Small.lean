import ShellFailure.Shell.Utilities.Escaped
import ShellFailure.Shell.Utilities.Options

/-!
# Small utilities

Writing arguments out (`echo`) and waiting (`wait`).
-/

namespace ShellFailure.Shell.Utilities

open Text

/-! ## Writing arguments -/

/-- The characters that a letter after a backslash stands for. -/
def echoEscapes : List (Char × Char) :=
  [('\\', '\\'), ('a', '\x07'), ('b', '\x08'), ('f', '\x0c'), ('n', '\n'), ('r', '\r'),
   ('t', '\t'), ('v', '\x0b')]

/-- A text with its escapes carried out, and whether it goes on: an escape may end it.  An escape
that is none stands as it is. -/
def echoText : List Char → List Char × Bool
  | [] => ([], true)
  | '\\' :: 'c' :: _ => ([], false)
  | '\\' :: c :: cs =>
      let (text, more) := echoText cs
      match echoEscapes.lookup c with
      | some d => (d :: text, more)
      | none => ('\\' :: c :: text, more)
  | c :: cs =>
      let (text, more) := echoText cs
      (c :: text, more)

/-- What is written of arguments: they stand on a line, with blanks between them. -/
def echoLine (newline escapes : Bool) (arguments : List String) : Output :=
  let (text, more) :=
    if escapes then echoText (" ".intercalate arguments).toList
    else ((" ".intercalate arguments).toList, true)
  .out (String.ofList text ++ if newline && more then "\n" else "")

/-- Is an argument made of letters for how to write? -/
def isEchoOption (argument : String) : Bool :=
  match argument.toList with
  | '-' :: c :: cs => (c :: cs).all ['n', 'e', 'E'].contains
  | _ => false

/-- Writes arguments. -/
def echo (arguments : List String) : ProgramRun :=
  let letters := (arguments.takeWhile isEchoOption).flatMap (·.toList)
  let escapes := (letters.filter (['e', 'E'].contains ·)).getLast? = some 'e'
  let arguments := arguments.dropWhile isEchoOption
  exited 0 [echoLine (! letters.contains 'n') escapes arguments]

/-! ## Waiting -/

/-- Are the characters decimal digits, and at least one? -/
def isDigits (cs : List Char) : Bool := ! cs.isEmpty && cs.all fun c => (decimalDigit? c).isSome

/-- Is a text a decimal number, with an exponent or without? -/
def isDecimal (cs : List Char) : Bool :=
  let unsigned := fun (cs : List Char) =>
    match cs with
    | '+' :: cs => cs
    | cs => cs
  let exponent := fun (cs : List Char) =>
    match cs with
    | [] => true
    | _ :: '-' :: cs => isDigits cs
    | _ :: cs => isDigits (unsigned cs)
  let isMark := fun (c : Char) => c = 'e' ∨ c = 'E'
  let mantissa := (unsigned cs).takeWhile (! isMark ·)
  exponent ((unsigned cs).dropWhile (! isMark ·)) &&
    match mantissa.splitOn '.' with
    | [whole] => isDigits whole
    | [whole, part] => isDigits (whole ++ part)
    | _ => false

/-- Is an argument a time to wait: a number, with a letter for its unit or without? -/
def isDuration (argument : String) : Bool :=
  let cs := argument.toList.dropWhile isBlank
  isDecimal (if cs.getLast?.any ['s', 'm', 'h', 'd'].contains then cs.dropLast else cs)

/-- Waits as long as the arguments say in all.  There must be arguments, if only a mark that no
option follows. -/
def wait (utility : String) (arguments : List String) : ProgramRun :=
  if arguments.isEmpty then misused utility ["missing operand"]
  else
    match OptionTable.read ⟨[], []⟩ arguments with
    | .about => exited 0 []
    | .misuse misuse => misused utility [misuse.message]
    | .work _ operands =>
        match operands.filter (! isDuration ·) with
        | [] => exited 0 []
        | wrong => misused utility (wrong.map fun w => "invalid time interval " ++ wordInMessage w)

end ShellFailure.Shell.Utilities
