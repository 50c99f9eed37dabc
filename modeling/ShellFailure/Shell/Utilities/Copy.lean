import ShellFailure.Shell.Utilities.Escaped
import ShellFailure.Shell.Utilities.Options

/-!
# Copying

The utility that writes its files out, one after the other (`copy`).  Its options number the lines,
mark their ends and show what else does not show; the files count as one text.
-/

namespace ShellFailure.Shell.Utilities

open Text

/-- The options of copying. -/
def copyOptions : OptionTable where
  letters :=
    [('A', ["show-all"]), ('b', ["number-nonblank"]), ('e', ["show-nonprinting", "show-ends"]),
     ('E', ["show-ends"]), ('n', ["number"]), ('s', ["squeeze-blank"]),
     ('t', ["show-nonprinting", "show-tabs"]), ('T', ["show-tabs"]), ('u', []),
     ('v', ["show-nonprinting"])]
  names :=
    ["number-nonblank", "number", "squeeze-blank", "show-nonprinting", "show-ends", "show-tabs",
     "show-all"]

/-- What is done to the text on its way. -/
structure CopyStyle where
  /-- Are lines numbered? -/
  number : Bool
  /-- Are blank lines left out of the numbers? -/
  skipBlank : Bool
  /-- Are blank lines in a row made one? -/
  squeeze : Bool
  ends : Bool
  tabs : Bool
  controls : Bool
  deriving DecidableEq, Repr

/-- The style that options ask for. -/
def CopyStyle.ofOptions (options : List String) : CopyStyle :=
  let all := options.contains "show-all"
  let nonblank := options.contains "number-nonblank"
  { number := nonblank || options.contains "number"
    skipBlank := nonblank
    squeeze := options.contains "squeeze-blank"
    ends := all || options.contains "show-ends"
    tabs := all || options.contains "show-tabs"
    controls := all || options.contains "show-nonprinting" }

/-- A byte of 32 or more, below 128, made visible. -/
def visibleHigh (n : Nat) : List Char := if n = 127 then ['^', '?'] else [Char.ofNat n]

/-- A byte below 128 made visible. -/
def visibleLow (n : Nat) : List Char :=
  if n < 32 then ['^', Char.ofNat (n + 64)] else visibleHigh n

/-- A byte made visible. -/
def visibleByte (b : UInt8) : List Char :=
  if b.toNat < 128 then visibleLow b.toNat else 'M' :: '-' :: visibleLow (b.toNat - 128)

/-- A character in a style, given whether a line feed is next. -/
def CopyStyle.visible (style : CopyStyle) (c : Char) (last : Bool) : List Char :=
  if c = '\t' then if style.tabs then ['^', 'I'] else ['\t']
  else if c = '\r' ∧ last ∧ style.ends then ['^', 'M']
  else if style.controls then (String.utf8EncodeChar c).flatMap visibleByte
  else [c]

/-- The number of a line, with what stands around it. -/
def lineNumber (n : Nat) : List Char :=
  let digits := (decimal n).toList
  List.replicate (6 - digits.length) ' ' ++ digits ++ ['\t']

/-- Where copying is: what number the next line has, and whether a line has begun; if not, whether
the line before it was there and blank. -/
structure CopyState where
  next : Nat
  begun : Bool
  afterBlank : Bool

/-- Copies a text in a style. -/
def CopyStyle.copyFrom (style : CopyStyle) (state : CopyState) : List Char → List Char
  | [] => []
  | '\n' :: cs =>
      let ending := if style.ends then ['$', '\n'] else ['\n']
      if state.begun then ending ++ style.copyFrom ⟨state.next, false, false⟩ cs
      else if style.squeeze && state.afterBlank then style.copyFrom state cs
      else if style.number && ! style.skipBlank then
        lineNumber state.next ++ ending ++ style.copyFrom ⟨state.next + 1, false, true⟩ cs
      else ending ++ style.copyFrom ⟨state.next, false, true⟩ cs
  | c :: cs =>
      let shown := style.visible c (cs.head? = some '\n')
      if state.begun || ! style.number then shown ++ style.copyFrom ⟨state.next, true, false⟩ cs
      else lineNumber state.next ++ shown ++ style.copyFrom ⟨state.next + 1, true, false⟩ cs

/-- The text of an operand of copying: of a file, or of what comes in. -/
def operandText (fs : FileSystem) (operand : String) : Except FileError String :=
  if operand = "-" then .ok fs.input
  else
    match fs.text operand with
    | .error .notText => .ok ""
    | read => read

/-- The line about an operand that cannot be copied. -/
def copyProblem (utility operand : String) (e : FileError) : Output :=
  .errLine (utility ++ ": " ++ inMessage operand ++ ": " ++ e.description.1)

/-- Copies files, and what comes in if there are none. -/
def copy (fs : FileSystem) (utility : String) (arguments : List String) : ProgramRun :=
  match copyOptions.read arguments with
  | .about => exited 0 []
  | .misuse misuse => Utilities.misused utility [misuse.message]
  | .work options operands =>
      let operands := if operands.isEmpty then ["-"] else operands
      let read := operands.map fun operand => (operand, operandText fs operand)
      let text := String.join (read.map fun (_, text) => text.toOption.getD "")
      let problems := read.filterMap fun
        | (_, .ok _) => none
        | (operand, .error e) => some (copyProblem utility operand e)
      let copied := (CopyStyle.ofOptions options).copyFrom ⟨1, false, false⟩ text.toList
      exited (if problems.isEmpty then 0 else 1) (.out (String.ofList copied) :: problems)

end ShellFailure.Shell.Utilities
