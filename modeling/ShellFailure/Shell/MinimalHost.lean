import ShellFailure.Shell.Utilities.Copy
import ShellFailure.Shell.Utilities.Script

/-!
# A host without processes

A host that knows a file system and carries out a few programs by itself.  A program is looked for
by its path if its name has a slash, and by its name otherwise; what is there and is no program may
not be run.
-/

namespace ShellFailure.Shell

open Text Utilities

/-- Finds the program that a name means, by the name it has where programs are kept. -/
def FileSystem.program (fs : FileSystem) (name : String) : Except FileError String :=
  if name.toList.contains '/' then
    match fs.find name with
    | .ok (.program program) => .ok program
    | .ok _ => .error .permissionDenied
    | .error e => .error e
  else if name = "." ∨ name = ".." then .error .permissionDenied
  else if isTooLong name then .error .nameTooLong
  else if standardPrograms.contains name then .ok name
  else .error .notFound

/-- Runs the program that a name means.  Shells run one another only so deep. -/
def FileSystem.run (fs : FileSystem) (depth : Nat) (name : String) (arguments : List String) :
    Except FileError ProgramRun :=
  if (name :: arguments).any (·.toList.contains '\x00') then .error .nulInName
  else
    match fs.program name with
    | .error e => .error e
    | .ok "false" => .ok (exited 1 [])
    | .ok "cat" => .ok (copy fs name arguments)
    | .ok "echo" => .ok (echo arguments)
    | .ok "sleep" => .ok (wait name arguments)
    | .ok "sh" | .ok "dash" =>
        match depth with
        | 0 => .ok (exited 0 [])
        | depth + 1 => .ok (shell fs (fs.run depth) name arguments)
    | .ok _ => .ok (exited 0 [])

/-- How deep shells run one another. -/
def shellDepth : Nat := 16

/-- A host that has some files in the working directory, and for whose programs nothing comes
in. -/
def Host.minimal (files : List (String × String)) : Host := fun _ name arguments =>
  match FileSystem.run ⟨files, ""⟩ shellDepth name arguments with
  | .ok run => run
  | .error e => ⟨[], .refused e.message⟩

end ShellFailure.Shell
