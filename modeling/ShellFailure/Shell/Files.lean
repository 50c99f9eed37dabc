import ShellFailure.Shell.StandardFiles
import ShellFailure.Text.Bytes
import ShellFailure.Text.Numeral

/-!
# Files

What a file system answers to a path: the text of a file, or the reason why there is none.

A path is walked part by part (`FileSystem.step`), and the first part that leads nowhere is the
reason.  The files of the working directory and the text that comes in are known; besides them
there is what any host has.
-/

namespace ShellFailure.Shell

open Text

/-- The reasons of a file system. -/
inductive FileError
  | notFound
  | noDevice
  | permissionDenied
  | notDirectory
  | isDirectory
  | nameTooLong
  | nulInName
  | notText
  deriving DecidableEq, Repr

/-- The reason in words, and the number by which the system knows it, if it is the system's. -/
def FileError.description : FileError → String × Option Nat
  | notFound => ("No such file or directory", some 2)
  | noDevice => ("No such device or address", some 6)
  | permissionDenied => ("Permission denied", some 13)
  | notDirectory => ("Not a directory", some 20)
  | isDirectory => ("Is a directory", some 21)
  | nameTooLong => ("File name too long", some 36)
  | nulInName => ("nul byte found in provided data", none)
  | notText => ("stream did not contain valid UTF-8", none)

/-- The wording of a reason. -/
def FileError.message (e : FileError) : String :=
  match e.description with
  | (words, none) => words
  | (words, some number) => words ++ " (os error " ++ decimal number ++ ")"

/-- The parts of a path between its slashes. -/
def pathParts (path : String) : List String :=
  (path.toList.splitOn '/').map String.ofList

/-- The most bytes that a path may have. -/
def pathLimit : Nat := 4095

/-- The most bytes that one part of a path may have. -/
def nameLimit : Nat := 255

/-- Is a part of a path too long? -/
def isTooLong (part : String) : Bool := nameLimit < byteLength part.toList

/-- What is known of a host's files. -/
structure FileSystem where
  /-- The names and the texts of the files in the working directory. -/
  files : List (String × String)
  /-- The text that comes in. -/
  input : String

/-- What is at a place. -/
def FileSystem.entry? (fs : FileSystem) : Place → Option Entry
  | [] => some .directory
  | name :: outer =>
      if name :: outer = workingDirectory then some .directory
      else if outer = workingDirectory then (fs.files.lookup name).map .file
      else standardEntries.lookup (Place.path (name :: outer))

/-- Where one part of a path leads from a place. -/
def FileSystem.step (fs : FileSystem) (p : Place) (part : String) : Except FileError Place :=
  if fs.entry? p ≠ some .directory then .error .notDirectory
  else if part = "" ∨ part = "." then .ok p
  else if part = ".." then .ok p.tail
  else if isTooLong part then .error .nameTooLong
  else
    match fs.entry? (part :: p) with
    | none => .error .notFound
    | some (.link target) => .ok target
    | some _ => .ok (part :: p)

/-- The place that the first part of a path leads from. -/
def startOf (path : String) : Place :=
  if path.toList.head? = some '/' then [] else workingDirectory

/-- What a path leads to. -/
def FileSystem.find (fs : FileSystem) (path : String) : Except FileError Entry :=
  if path.toList.contains '\x00' then .error .nulInName
  else if path = "" then .error .notFound
  else if pathLimit < byteLength path.toList then .error .nameTooLong
  else
    match (pathParts path).foldlM fs.step (startOf path) with
    | .error e => .error e
    | .ok p =>
        match fs.entry? p with
        | some e => .ok e
        | none => .error .notFound

/-- The text of the file that a path leads to. -/
def FileSystem.text (fs : FileSystem) (path : String) : Except FileError String :=
  match fs.find path with
  | .error e => .error e
  | .ok (.file text) => .ok text
  | .ok .input => .ok fs.input
  | .ok .terminal => .error .noDevice
  | .ok (.program _) => .error .notText
  | .ok .directory => .error .isDirectory
  | .ok (.link _) => .error .notFound

end ShellFailure.Shell
