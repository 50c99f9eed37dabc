import ShellFailure.Shell.Host

/-!
# Options

The arguments of a utility are options and operands.  An option is a letter after one hyphen, where
letters may share the hyphen, or a name after two, which may be cut short as long as it is no
other's.  Options may follow operands, but for what is after two hyphens alone; one hyphen alone is
an operand.
-/

namespace ShellFailure.Shell.Utilities

/-- The options of a utility.  A letter stands for some names. -/
structure OptionTable where
  letters : List (Char × List String)
  names : List String

/-- What is wrong with an option. -/
inductive Misuse
  | invalidLetter (letter : Char)
  | unrecognized (argument : String)
  | ambiguous (argument : String) (names : List String)
  | unwantedValue (name : String)
  deriving DecidableEq, Repr

/-- A letter as it stands in a message.  Only its first byte is a letter to a utility, and what is
no whole character does not show. -/
def shownLetter (letter : Char) : Char := if letter.toNat < 128 then letter else '\ufffd'

/-- The wording of what is wrong. -/
def Misuse.message : Misuse → String
  | invalidLetter letter => "invalid option -- '" ++ String.singleton (shownLetter letter) ++ "'"
  | unrecognized argument => "unrecognized option '" ++ argument ++ "'"
  | ambiguous argument names =>
      "option '" ++ argument ++ "' is ambiguous; possibilities:" ++
        String.join (names.map fun name => " '--" ++ name ++ "'")
  | unwantedValue name => "option '--" ++ name ++ "' doesn't allow an argument"

/-- What the arguments of a utility ask for. -/
inductive Request
  | work (options : List String) (operands : List String)
  /-- A text about the utility, and no work. -/
  | about
  | misuse (misuse : Misuse)
  deriving DecidableEq, Repr

/-- Puts more options and operands before those of a request for work. -/
def Request.prepend (options operands : List String) : Request → Request
  | work moreOptions moreOperands => work (options ++ moreOptions) (operands ++ moreOperands)
  | request => request

/-- The names that ask for a text about any utility. -/
def aboutNames : List String := ["help", "version"]

/-- The option that an argument after two hyphens names. -/
def OptionTable.name (t : OptionTable) (argument : String) : Except Misuse String :=
  let cs := argument.toList.drop 2
  let word := cs.takeWhile (· ≠ '=')
  let found := (t.names ++ aboutNames).filter (word.isPrefixOf ·.toList)
  let one : Except Misuse String :=
    match found.find? (·.toList = word), found with
    | some name, _ => .ok name
    | none, [name] => .ok name
    | none, [] => .error (.unrecognized argument)
    | none, names => .error (.ambiguous argument names)
  match one with
  | .error e => .error e
  | .ok name => if cs.contains '=' then .error (.unwantedValue name) else .ok name

/-- The names that letters stand for. -/
def OptionTable.namesOf (t : OptionTable) : List Char → Except Misuse (List String)
  | [] => .ok []
  | c :: cs =>
      match t.letters.lookup c with
      | none => .error (.invalidLetter c)
      | some names => (t.namesOf cs).map (names ++ ·)

/-- What arguments ask for.  The first option that is decisive counts. -/
def OptionTable.read (t : OptionTable) : List String → Request
  | [] => .work [] []
  | argument :: arguments =>
      match argument.toList with
      | ['-', '-'] => .work [] arguments
      | '-' :: '-' :: _ =>
          match t.name argument with
          | .error e => .misuse e
          | .ok name =>
              if aboutNames.contains name then .about else (t.read arguments).prepend [name] []
      | '-' :: c :: cs =>
          match t.namesOf (c :: cs) with
          | .error e => .misuse e
          | .ok names => (t.read arguments).prepend names []
      | _ => (t.read arguments).prepend [] [argument]

/-! ## Runs -/

/-- A run that exited with a code, after some output. -/
def exited (code : Nat) (outputs : List Output) : ProgramRun :=
  ⟨outputs, .reaped (.ofParts (Int32.ofNat code) 0) 1⟩

/-- A run that a signal ended, after some output. -/
def killed (signal : Nat) (outputs : List Output) : ProgramRun :=
  ⟨outputs, .reaped (.ofParts 0 (Int32.ofNat signal)) 1⟩

/-- What a utility says of itself when its arguments are wrong. -/
def hint (utility : String) : String := "Try '" ++ utility ++ " --help' for more information."

/-- The run of a utility that did not understand its arguments. -/
def misused (utility : String) (problems : List String) : ProgramRun :=
  exited 1 <|
    problems.map (fun problem => .errLine (utility ++ ": " ++ problem)) ++ [.errLine (hint utility)]

end ShellFailure.Shell.Utilities
